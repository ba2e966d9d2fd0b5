import Banter.Proofs.Lexicon.Entering
import Banter.Reply

namespace Banter

variable {good : Symbol → Prop}

namespace Lexicon

/-- Whether all symbols of a lexicon are good. -/
def HoldsOnly (good : Symbol → Prop) (lexicon : Lexicon) : Prop :=
  ∀ symbol ∈ lexicon.symbols, good symbol

theorem holdsOnly_empty : empty.HoldsOnly good := by
  intro symbol hsymbol
  exact absurd hsymbol (by simp [empty])

theorem HoldsOnly.enter {lexicon : Lexicon} (h : lexicon.HoldsOnly good) {symbol : Symbol}
    (hsymbol : good symbol) : (lexicon.enter symbol).2.HoldsOnly good := by
  rcases lexicon.enter_cases symbol with ⟨_, _, henter⟩ | ⟨_, _, newer, henter, hnewer⟩ | ⟨_, _, henter⟩
  · rwa [henter]
  · rw [henter]
    intro other hother
    rw [← Array.mem_toList_iff, hnewer, List.mem_append, List.mem_singleton] at hother
    rcases hother with hother | rfl
    · exact h other (Array.mem_toList_iff.mp hother)
    · exact hsymbol
  · rwa [henter]

theorem HoldsOnly.enterOnto {lexicon : Lexicon} (h : lexicon.HoldsOnly good) (ids : Array SymbolId)
    {symbols : List Symbol} (hsymbols : ∀ symbol ∈ symbols, good symbol) :
    (lexicon.enterOnto ids symbols).2.HoldsOnly good := by
  induction symbols generalizing ids lexicon with
  | nil => exact h
  | cons symbol symbols ih =>
    obtain ⟨hfirst, hrest⟩ := List.forall_mem_cons.mp hsymbols
    have hentered := h.enter hfirst
    rw [Lexicon.enterOnto]
    split
    next id newer henter =>
      rw [henter] at hentered
      exact ih hentered _ hrest
    next fault newer henter =>
      rw [henter] at hentered
      exact hentered

end Lexicon

namespace Brain

variable {brain : Brain}

theorem holdsOnly_read (h : brain.lexicon.HoldsOnly good) {text : String}
    (htext : ∀ symbol ∈ symbolsOf text, good symbol) : (brain.read text).2.lexicon.HoldsOnly good :=
  h.enterOnto #[] htext

theorem holdsOnly_enterStop (h : brain.lexicon.HoldsOnly good) (hstop : good .stop) :
    brain.enterStop.2.lexicon.HoldsOnly good :=
  h.enter hstop

theorem holdsOnly_study (h : brain.lexicon.HoldsOnly good) (hstop : good .stop) (ids : Array SymbolId) :
    (brain.study ids).2.lexicon.HoldsOnly good := by
  have hstopped := holdsOnly_enterStop h hstop
  unfold study
  split
  next => exact h
  next =>
    split
    next henter =>
      rw [henter] at hstopped
      exact hstopped
    next henter =>
      rw [henter] at hstopped
      exact hstopped

theorem holdsOnly_learn (h : brain.lexicon.HoldsOnly good) (hstop : good .stop) {text : String}
    (htext : ∀ symbol ∈ symbolsOf text, good symbol) : (brain.learn text).2.lexicon.HoldsOnly good := by
  have hread := holdsOnly_read h htext
  unfold learn
  split
  next henter =>
    rw [henter] at hread
    exact holdsOnly_study hread hstop _
  next henter =>
    rw [henter] at hread
    exact hread

theorem holdsOnly_finishReply (h : brain.lexicon.HoldsOnly good) (hstop : good .stop)
    (heard : Array SymbolId) (said : List SymbolId) :
    (brain.finishReply heard said).2.lexicon.HoldsOnly good := by
  have hstopped := holdsOnly_enterStop h hstop
  cases said with
  | nil => exact holdsOnly_study h hstop heard
  | cons first rest =>
    rw [finishReply, endReply]
    split
    next hend =>
      split at hend
      next henter =>
        obtain ⟨_, rfl⟩ := Prod.mk.inj hend
        rw [henter] at hstopped
        exact holdsOnly_study hstopped hstop heard
      next => exact absurd hend (by simp)
    next hend =>
      split at hend
      next => exact absurd hend (by simp)
      next henter =>
        obtain ⟨_, rfl⟩ := Prod.mk.inj hend
        rw [henter] at hstopped
        exact hstopped

/-- Replying to a text enters good symbols, if those of the text and the stop are good. -/
theorem holdsOnly_reply (h : brain.lexicon.HoldsOnly good) (hstop : good .stop) {text : String}
    (htext : ∀ symbol ∈ symbolsOf text, good symbol) (dice : Dice) :
    (brain.reply text dice).2.1.lexicon.HoldsOnly good := by
  have hread := holdsOnly_read h htext
  unfold reply
  split
  next henter =>
    rw [henter] at hread
    exact hread
  next ids reader henter =>
    rw [henter] at hread
    have hfinish := holdsOnly_finishReply hread hstop ids (reader.compose ids dice).1
    cases hcompose : reader.compose ids dice with
    | mk said later =>
      rw [hcompose] at hfinish
      dsimp only
      split
      next hended =>
        rw [hended] at hfinish
        exact hfinish
      next hended =>
        rw [hended] at hfinish
        exact hfinish

end Brain

end Banter
