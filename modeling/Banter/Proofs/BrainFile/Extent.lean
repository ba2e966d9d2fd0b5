import Banter.Proofs.BrainFile.Decoding

/-!
# Where a file ends

Each reader takes bytes up to a point that does not depend on what comes after it, and misses any of them
that are cut off before it looks at anything else. So no part of a brain file is one itself, and a brain file
with bytes after it is none.
-/

namespace Banter.BrainFile

variable {α β : Type}

/-- What a reader takes from the front of bytes it also takes when other bytes follow. If the end of it is
cut off, the reader meets the end of the file. -/
def TakesWhole (item : Reader α) : Prop :=
  ∀ bytes value rest, item bytes = .ok (value, rest) → ∃ front, bytes = front ++ rest ∧
    (∀ more, item (front ++ more) = .ok (value, more)) ∧
    ∀ cut, cut <+: front → cut ≠ front → item cut = defect .endOfFile

theorem takesWhole_pure (value : α) : TakesWhole fun bytes => pure (value, bytes) := by
  intro bytes found rest h
  obtain ⟨rfl, rfl⟩ := Prod.mk.inj (Except.ok.inj h)
  refine ⟨[], rfl, fun _ => rfl, ?_⟩
  intro cut hcut hproper
  exact absurd (List.prefix_nil.mp hcut) hproper

theorem takesWhole_defect (cause : Defect) :
    TakesWhole fun _ => (defect cause : Except Fault (α × List UInt8)) := by
  intro bytes value rest h
  exact absurd h (by simp [defect])

/-- A check of what was read takes no bytes. -/
theorem takesWhole_check (result : Except Fault α) :
    TakesWhole fun bytes => result >>= fun value => pure (value, bytes) := by
  cases result with
  | error fault =>
    intro bytes value rest h
    exact absurd h (by simp [bind, Except.bind])
  | ok value => exact takesWhole_pure value

theorem TakesWhole.bind {item : Reader α} {next : α × List UInt8 → Except Fault (β × List UInt8)}
    (h : TakesWhole item) (hnext : ∀ value, TakesWhole fun rest => next (value, rest)) :
    TakesWhole fun bytes => item bytes >>= next := by
  intro bytes last rest hread
  obtain ⟨⟨value, after⟩, hvalue, hlast⟩ := bind_eq_ok_iff.mp hread
  obtain ⟨front, rfl, hmore, hcut⟩ := h bytes value after hvalue
  obtain ⟨back, rfl, hmoreBack, hcutBack⟩ := hnext value after last rest hlast
  refine ⟨front ++ back, (List.append_assoc _ _ _).symm, ?_, ?_⟩
  · intro more
    rw [List.append_assoc]
    exact bind_eq_ok_iff.mpr ⟨_, hmore (back ++ more), hmoreBack more⟩
  · intro cut hprefix hproper
    -- The cut falls into what the first reader takes, or behind it.
    by_cases hfirst : front <+: cut
    · obtain ⟨part, rfl⟩ := hfirst
      have hpart := hcutBack part ((List.prefix_append_right_inj front).mp hprefix)
        fun hsame => hproper (by rw [hsame])
      show (item (front ++ part) >>= next) = _
      rw [hmore part]
      exact hpart
    · have hwithin := (List.prefix_or_prefix_of_prefix (List.prefix_append front back) hprefix).resolve_left
        hfirst
      have hmissed := hcut cut hwithin fun hsame => hfirst (hsame ▸ List.prefix_refl front)
      show (item cut >>= next) = _
      rw [hmissed]
      rfl

theorem TakesWhole.ite {condition : Prop} [Decidable condition] {item other : Reader α}
    (h : TakesWhole item) (hother : TakesWhole other) :
    TakesWhole fun bytes => if condition then item bytes else other bytes := by
  by_cases hcondition : condition
  · simpa only [hcondition, if_true] using h
  · simpa only [hcondition, if_false] using hother

theorem takesWhole_readByte : TakesWhole readByte := by
  intro bytes value rest h
  cases bytes with
  | nil => exact absurd h (by simp [readByte, defect])
  | cons byte bytes =>
    obtain ⟨rfl, rfl⟩ := Prod.mk.inj (Except.ok.inj h)
    refine ⟨[byte], rfl, fun _ => rfl, ?_⟩
    intro cut hcut hproper
    rcases List.prefix_cons_iff.mp hcut with rfl | ⟨tail, rfl, htail⟩
    · rfl
    · exact absurd (by rw [List.prefix_nil.mp htail]) hproper

theorem takesWhole_readBytes (count : Nat) : TakesWhole (readBytes count) := by
  intro bytes value rest h
  dsimp only [readBytes] at h
  split at h
  next htaken =>
    obtain ⟨rfl, rfl⟩ := Prod.mk.inj (Except.ok.inj h)
    refine ⟨bytes.take count, (List.take_append_drop count bytes).symm, ?_, ?_⟩
    · intro more
      have hread := readBytes_append (bytes.take count) more
      rwa [htaken] at hread
    · intro cut hcut hproper
      have hlength : cut.length ≠ count := fun hsame => hproper (hcut.eq_of_length (hsame.trans htaken.symm))
      have hle := hcut.length_le
      rw [htaken] at hle
      rw [readBytes, if_neg]
      rwa [List.take_of_length_le hle]
  next => exact absurd h (by simp [defect])

private theorem readWord_eq : readWord = fun bytes => readByte bytes >>= fun (low, bytes) =>
    readByte bytes >>= fun (high, bytes) => pure (low.toUInt16 + high.toUInt16 * 256, bytes) := by
  funext bytes
  rcases bytes with _ | ⟨low, _ | ⟨high, rest⟩⟩ <;> rfl

theorem takesWhole_readWord : TakesWhole readWord := by
  rw [readWord_eq]
  apply takesWhole_readByte.bind
  intro low
  apply takesWhole_readByte.bind
  intro high
  exact takesWhole_pure _

theorem takesWhole_readLengthWithin (limit : Nat) : TakesWhole (readLengthWithin limit) := by
  induction limit with
  | zero => exact takesWhole_defect .longLength
  | succ limit ih =>
    apply takesWhole_readByte.bind
    intro byte
    apply TakesWhole.ite
    · exact takesWhole_pure _
    · exact ih.bind fun _ => takesWhole_pure _

theorem takesWhole_readText : TakesWhole readText := by
  apply (takesWhole_readLengthWithin lengthBytesLimit).bind
  intro length
  apply (takesWhole_readBytes length).bind
  intro content
  cases hcontent : Text.ofUtf8? content with
  | none => simpa only [hcontent] using takesWhole_defect .notUtf8
  | some text => simpa only [hcontent] using takesWhole_pure text

theorem takesWhole_readSymbol : TakesWhole readSymbol := by
  apply takesWhole_readByte.bind
  intro tag
  apply TakesWhole.ite
  · apply takesWhole_readByte.bind
    intro index
    cases hindex : Mark.ofIndex? index with
    | none => simpa only [hindex] using takesWhole_defect (.unknownMark index)
    | some kind => simpa only [hindex] using takesWhole_pure (Symbol.mark kind)
  · apply TakesWhole.ite
    · exact takesWhole_readText.bind fun text => takesWhole_pure (Symbol.word text)
    · apply TakesWhole.ite
      · exact takesWhole_pure Symbol.stop
      · apply TakesWhole.ite
        · exact takesWhole_readText.bind fun text => takesWhole_pure (Symbol.address text)
        · exact takesWhole_defect (.unknownTag tag)

theorem readOnto_succ (item : Reader α) (count : Nat) (done : Array α) :
    readOnto item (count + 1) done = fun bytes =>
      item bytes >>= fun found => readOnto item count (done.push found.1) found.2 := by
  funext bytes
  rw [readOnto]
  cases item bytes <;> rfl

private theorem takesWhole_readOnto {item : Reader α} (h : TakesWhole item) (count : Nat) (done : Array α) :
    TakesWhole (readOnto item count done) := by
  induction count generalizing done with
  | zero => exact takesWhole_pure done
  | succ count ih =>
    rw [readOnto_succ]
    exact h.bind fun value => ih (done.push value)

theorem takesWhole_readMany {item : Reader α} (h : TakesWhole item) (count : Nat) :
    TakesWhole (readMany item count) :=
  takesWhole_readOnto h count #[]

theorem takesWhole_readLexicon : TakesWhole readLexicon := by
  apply takesWhole_readWord.bind
  intro count
  apply (takesWhole_readMany takesWhole_readSymbol count.toNat).bind
  intro symbols
  exact takesWhole_check (Lexicon.ofList symbols.toList)

theorem takesWhole_readNode (isAllowed : SymbolId → Bool) (mayBranch : Bool) :
    TakesWhole (readNode isAllowed mayBranch) := by
  apply takesWhole_readWord.bind
  intro id
  apply TakesWhole.ite
  · exact takesWhole_defect (.unlistedId id)
  · apply takesWhole_readWord.bind
    intro count
    apply TakesWhole.ite
    · exact takesWhole_defect .tooDeep
    · exact takesWhole_pure (id, count)

theorem takesWhole_readTrie (isListed : SymbolId → Bool) (depth : Nat) (isAllowed : SymbolId → Bool) :
    TakesWhole (readTrie isListed depth isAllowed) := by
  induction depth generalizing isAllowed with
  | zero => exact (takesWhole_readNode isAllowed false).bind fun node => takesWhole_pure (Trie.leaf node.1)
  | succ depth ih =>
    apply (takesWhole_readNode isAllowed true).bind
    intro node
    apply (takesWhole_readMany (ih isListed) node.2.toNat).bind
    intro children
    exact takesWhole_check (nodeOf node.1 children)

def readBrain : Reader Brain := fun bytes => do
  let (lexicon, bytes) ← readLexicon bytes
  let (onward, bytes) ← readPaths lexicon bytes
  let (backward, bytes) ← readPaths lexicon bytes
  return (⟨lexicon, ⟨onward, backward⟩⟩, bytes)

theorem takesWhole_readBrain : TakesWhole readBrain := by
  apply takesWhole_readLexicon.bind
  intro lexicon
  apply (takesWhole_readTrie _ depthLimit _).bind
  intro onward
  apply (takesWhole_readTrie _ depthLimit _).bind
  intro backward
  exact takesWhole_pure (⟨lexicon, ⟨onward, backward⟩⟩ : Brain)

/-- A file is read as a brain with nothing after it. -/
theorem decode_eq (bytes : List UInt8) : decode bytes = readBrain bytes >>= fun (brain, rest) =>
    if rest.isEmpty then pure brain else defect (.trailingBytes rest.length) := by
  unfold decode readBrain
  cases readLexicon bytes with
  | error fault => rfl
  | ok found =>
    cases hfirst : readPaths found.1 found.2 with
    | error fault => simp only [bind, Except.bind, hfirst]
    | ok onward =>
      cases hsecond : readPaths found.1 onward.2 with
      | error fault => simp only [bind, Except.bind, hfirst, hsecond]
      | ok backward => simp only [bind, Except.bind, hfirst, hsecond, pure, Except.pure]

theorem decode_eq_ok_iff {bytes : List UInt8} {brain : Brain} :
    decode bytes = .ok brain ↔ readBrain bytes = .ok (brain, []) := by
  rw [decode_eq, bind_eq_ok_iff]
  constructor
  · intro hexists
    obtain ⟨⟨found, rest⟩, hread, h⟩ := hexists
    dsimp only at h
    split at h
    next hend =>
      obtain rfl := Except.ok.inj h
      rw [hread, List.isEmpty_iff.mp hend]
    next => exact absurd h (by simp [defect])
  · intro hread
    exact ⟨(brain, []), hread, rfl⟩

/-- A brain file that is cut short ends too early, and one with bytes after it has as many bytes too many. So
no brain file begins another. -/
theorem decode_of_altered {bytes : List UInt8} {brain : Brain} (h : decode bytes = .ok brain) :
    (∀ count < bytes.length, decode (bytes.take count) = .error (.defective .endOfFile)) ∧
    (∀ more, more ≠ [] → decode (bytes ++ more) = .error (.defective (.trailingBytes more.length))) ∧
    (∀ other, (∃ newer, decode other = .ok newer) → bytes <+: other → bytes = other) ∧
    Defect.endOfFile.message = "unexpected end of file" ∧
    ∀ count, (Defect.trailingBytes count).message = s!"{count} trailing bytes after the backward trie" := by
  obtain ⟨front, hfront, hmore, hcut⟩ := takesWhole_readBrain bytes brain [] (decode_eq_ok_iff.mp h)
  rw [List.append_nil] at hfront
  subst hfront
  have hlonger (more : List UInt8) (hsome : more ≠ []) :
      decode (bytes ++ more) = .error (.defective (.trailingBytes more.length)) := by
    rw [decode_eq, hmore more]
    simp [bind, Except.bind, hsome, defect]
  refine ⟨?_, hlonger, ?_, rfl, fun _ => rfl⟩
  · intro count hcount
    have hproper : bytes.take count ≠ bytes := by
      intro hsame
      have hlength := congrArg List.length hsame
      rw [List.length_take] at hlength
      omega
    rw [decode_eq, hcut (bytes.take count) (List.take_prefix count bytes) hproper]
    rfl
  · intro other hother hbegins
    obtain ⟨newer, hnewer⟩ := hother
    obtain ⟨more, rfl⟩ := hbegins
    by_cases hnone : more = []
    · rw [hnone, List.append_nil]
    · rw [hlonger more hnone] at hnewer
      exact absurd hnewer (by simp)

theorem decode_of_altered_address :
    let bytes : List UInt8 := [2, 0, 3, 129, 0, 65, 2, 7, 0, 1, 0, 0, 0, 1, 0, 1, 0, 0, 0, 0, 0, 0, 0]
    ∃ brain, decode bytes = .ok brain ∧ decode (bytes.take 5) = .error (.defective .endOfFile) ∧
      decode (bytes ++ [0, 1]) = .error (.defective (.trailingBytes 2)) := by
  intro bytes
  have hread : ∃ brain, decode bytes = .ok brain := ⟨_, rfl⟩
  obtain ⟨brain, hbrain⟩ := hread
  obtain ⟨hshort, hlong, _⟩ := decode_of_altered hbrain
  exact ⟨brain, hbrain, hshort 5 (by decide), hlong [0, 1] (by decide)⟩

end Banter.BrainFile
