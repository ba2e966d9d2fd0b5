import Banter.Chat
import Banter.Proofs.Conversation.Teaching

namespace Banter

namespace Text

theorem utf8ByteSize_ofList_cons (c : Char) (cs : List Char) :
    (String.ofList (c :: cs)).utf8ByteSize = c.utf8Size + (String.ofList cs).utf8ByteSize := by
  rw [String.ofList_cons, String.utf8ByteSize_append, String.utf8ByteSize_singleton]

theorem splitBytes_append (head tail : List Char) :
    splitBytes (head ++ tail) (String.ofList head).utf8ByteSize = some (head, tail) := by
  induction head with
  | nil => rw [String.ofList_nil, String.utf8ByteSize_empty, List.nil_append, splitBytes]
  | cons c head ih =>
    have hpos := c.utf8Size_pos
    obtain ⟨bytes, hbytes⟩ : ∃ bytes, c.utf8Size + (String.ofList head).utf8ByteSize = bytes + 1 :=
      Nat.exists_eq_add_one.mpr (by omega)
    have hrest : bytes + 1 - c.utf8Size = (String.ofList head).utf8ByteSize := by omega
    rw [utf8ByteSize_ofList_cons, hbytes, List.cons_append, splitBytes, if_pos (by omega), hrest, ih,
      Option.map_some]

theorem append_of_splitBytes {cs head tail : List Char} {bytes : Nat}
    (h : splitBytes cs bytes = some (head, tail)) :
    cs = head ++ tail ∧ (String.ofList head).utf8ByteSize = bytes := by
  fun_induction splitBytes cs bytes generalizing head with
  | case1 cs =>
    obtain ⟨rfl, rfl⟩ := Prod.mk.inj (Option.some.inj h)
    exact ⟨rfl, rfl⟩
  | case2 => exact absurd h (by simp)
  | case3 c rest bytes hfits ih =>
    obtain ⟨⟨front, back⟩, hsplit, hparts⟩ := Option.map_eq_some_iff.mp h
    obtain ⟨rfl, rfl⟩ := Prod.mk.inj hparts
    obtain ⟨rfl, hsize⟩ := ih hsplit
    rw [utf8ByteSize_ofList_cons, hsize]
    exact ⟨rfl, by omega⟩
  | case4 => exact absurd h (by simp)

end Text

/-- Whether a line calls the one with a name by a head of it: the head is the name in any case, and a character
that calls for attention stands between it and the rest. -/
def Settings.Calls (settings : Settings) (line head rest : String) : Prop :=
  ∃ c ∈ settings.attention.toList, line = head ++ String.singleton c ++ rest ∧
    Text.lower head = Text.lower settings.nickname

/-- A line is spoken to the one that it calls by as many bytes as the name has. -/
theorem Settings.spokenTo?_eq_some_iff {settings : Settings} {line text : String} :
    settings.spokenTo? line = some text ↔ ∃ head rest, settings.Calls line head rest ∧
      head.utf8ByteSize = settings.nickname.utf8ByteSize ∧ text = Text.trim rest := by
  constructor
  · intro h
    unfold spokenTo? at h
    split at h
    next head c rest hsplit =>
      obtain ⟨hline, hsize⟩ := Text.append_of_splitBytes hsplit
      split at h
      next hcalls =>
        refine ⟨String.ofList head, String.ofList rest, ⟨c, hcalls.2, ?_, hcalls.1⟩, hsize,
          (Option.some.inj h).symm⟩
        simp [← String.toList_inj, hline]
      next => exact absurd h (by simp)
    next => exact absurd h (by simp)
  · intro hexists
    obtain ⟨head, rest, ⟨c, hc, rfl, hname⟩, hsize, rfl⟩ := hexists
    have hsplit := Text.splitBytes_append head.toList (c :: rest.toList)
    rw [String.ofList_toList, hsize] at hsplit
    have hline : (head ++ String.singleton c ++ rest).toList = head.toList ++ c :: rest.toList := by simp
    simp only [spokenTo?, hline, hsplit, String.ofList_toList]
    rw [if_pos ⟨hname, hc⟩]

theorem Settings.spokenTo?_eq_none_iff {settings : Settings} {line : String} :
    settings.spokenTo? line = none ↔
      ∀ head rest, settings.Calls line head rest → head.utf8ByteSize ≠ settings.nickname.utf8ByteSize := by
  rw [Option.eq_none_iff_forall_ne_some]
  constructor
  · intro hnone head rest hcalls hsize
    exact hnone _ (spokenTo?_eq_some_iff.mpr ⟨head, rest, hcalls, hsize, rfl⟩)
  · intro hother text htext
    obtain ⟨head, rest, hcalls, hsize, _⟩ := spokenTo?_eq_some_iff.mp htext
    exact hother head rest hcalls hsize

namespace Chat

variable {settings : Settings} {brain : Brain}

/-- A reply that heard a text is an echo when it says just the symbols of the text. -/
theorem answer?_of_heard {text : String} {reply : Reply} (h : reply.heard = (symbolsOf text).filter (!·.isStop)) :
    answer? settings reply =
      if reply.said = [] then none
      else if reply.said = (symbolsOf text).filter (!·.isStop) then
        some (settings.echoPreface.getD "" ++ textOf reply.said)
      else some (textOf reply.said) := by
  have hecho : reply.isEcho = true ↔ reply.said ≠ [] ∧ reply.said = (symbolsOf text).filter (!·.isStop) := by
    simp [Reply.isEcho, Reply.isEmpty, h, List.filter_filter]
  unfold answer?
  split
  next hnone => rw [if_pos (List.isEmpty_iff.mp hnone)]
  next hsome =>
    have hsaid : reply.said ≠ [] := fun hnone => hsome (List.isEmpty_iff.mpr hnone)
    simp only [hecho, hsaid, ne_eq, not_false_eq_true, true_and, if_false, Reply.text]

/-- A line that is spoken to a sound chat is replied to, if there is room for its symbols. -/
theorem take_of_spokenTo_of_room (h : brain.IsSound) {line text : String}
    (hspoken : settings.spokenTo? (Text.trim line) = some text) {dice : Dice}
    (hroom : (take ⟨settings, brain⟩ line dice).1 ≠ .error (.full Lexicon.capacity)) :
    ∃ reply newer last, brain.reply text dice = (.ok reply, newer, last) ∧
      take ⟨settings, brain⟩ line dice =
        (.ok (if reply.said = [] then none
          else if reply.said = (symbolsOf text).filter (!·.isStop) then
            some (settings.echoPreface.getD "" ++ textOf reply.said)
          else some (textOf reply.said)), ⟨settings, newer⟩, last) := by
  obtain ⟨newer, last, ⟨hreply, _⟩ | ⟨reader, ids, symbols, _, _, _, hreply⟩⟩ := h.reply_cases text dice
  · simp only [take, hspoken, hreply] at hroom
    exact absurd rfl hroom
  · have hanswer := @answer?_of_heard settings text
      ⟨(symbolsOf text).filter (!·.isStop), symbols.filter (!·.isStop)⟩ rfl
    refine ⟨_, newer, last, hreply, ?_⟩
    simp only [take, hspoken, hreply, Except.map, hanswer]

/-- Any other line is learned as it is, if there is room for its symbols. -/
theorem take_of_not_spokenTo_of_room {line : String} (hspoken : settings.spokenTo? (Text.trim line) = none)
    {dice : Dice} (hroom : (take ⟨settings, brain⟩ line dice).1 ≠ .error (.full Lexicon.capacity)) :
    ∃ newer, brain.learn (Text.trim line) = (.ok (), newer) ∧
      take ⟨settings, brain⟩ line dice = (.ok none, ⟨settings, newer⟩, dice) := by
  obtain ⟨newer, ⟨hlearn, _⟩ | ⟨hlearn, _⟩⟩ := brain.learn_cases (Text.trim line)
  · refine ⟨newer, hlearn, ?_⟩
    simp only [take, hspoken, hlearn]
    rfl
  · simp only [take, hspoken, hlearn] at hroom
    exact absurd rfl hroom

end Chat

namespace Conversation

/-- Unless the lexicon runs full, a chat replies to a line that calls it by a head of as many bytes as its name
has. The answer is what the reply says, if it says anything, with the preface before it if it says just what was
heard. Any other line is learned as it is and has no answer. -/
theorem run_answers_calls (start : Brain) (hstart : start = .empty ∨ ∃ bytes, BrainFile.decode bytes = .ok start)
    (dice : Dice) (events : List Event) (settings : Settings) (line : String) (later : Dice)
    (hroom : (Chat.take ⟨settings, ((Conversation.start start dice).run events).brain⟩ line later).1 ≠
      .error (.full 65536)) :
    let brain := ((Conversation.start start dice).run events).brain
    let raw := Text.trim line
    let outcome := Chat.take ⟨settings, brain⟩ line later
    (∀ head rest, settings.Calls raw head rest → head.utf8ByteSize = settings.nickname.utf8ByteSize →
      ∃ reply newer last, brain.reply (Text.trim rest) later = (.ok reply, newer, last) ∧
        outcome = (.ok (if reply.said = [] then none
          else if reply.said = (symbolsOf (Text.trim rest)).filter (!·.isStop) then
            some (settings.echoPreface.getD "" ++ textOf reply.said)
          else some (textOf reply.said)), ⟨settings, newer⟩, last)) ∧
    ((∀ head rest, settings.Calls raw head rest → head.utf8ByteSize ≠ settings.nickname.utf8ByteSize) →
      ∃ newer, brain.learn raw = (.ok (), newer) ∧ outcome = (.ok none, ⟨settings, newer⟩, later)) := by
  intro brain raw outcome
  constructor
  · intro head rest hcalls hsize
    have hspoken : settings.spokenTo? raw = some (Text.trim rest) :=
      Settings.spokenTo?_eq_some_iff.mpr ⟨head, rest, hcalls, hsize, rfl⟩
    exact Chat.take_of_spokenTo_of_room (isSound_run hstart dice events) hspoken hroom
  · intro hother
    exact Chat.take_of_not_spokenTo_of_room (Settings.spokenTo?_eq_none_iff.mpr hother) hroom

theorem run_answers_calls_echo :
    let brain := ((Conversation.start .empty (.mixed 5)).run [.learn "the cat sat."]).brain
    let dice := Dice.evenlySpaced 0 0
    let outcome := Chat.take ⟨.usual, brain⟩ " ChatTER, the cat sat. " dice
    outcome.1 ≠ .error (.full 65536) ∧
      Settings.usual.Calls (Text.trim " ChatTER, the cat sat. ") "ChatTER" " the cat sat." ∧
      ∃ reply newer last, brain.reply (Text.trim " the cat sat.") dice = (.ok reply, newer, last) ∧
        outcome = (.ok (some ("I understand: " ++ textOf reply.said)), ⟨.usual, newer⟩, last) := by
  intro brain dice outcome
  have hanswer : outcome.1 = .ok (some "I understand: The cat sat.") := by decide +kernel
  have hroom : outcome.1 ≠ .error (.full 65536) := by simp [hanswer]
  have hcalls : Settings.usual.Calls (Text.trim " ChatTER, the cat sat. ") "ChatTER" " the cat sat." :=
    ⟨',', by decide +kernel, by decide +kernel, by decide +kernel⟩
  have hsaid : (brain.reply (Text.trim " the cat sat.") dice).1.map Reply.said =
      .ok ((symbolsOf (Text.trim " the cat sat.")).filter (!·.isStop)) := by decide +kernel
  obtain ⟨hspoken, _⟩ := run_answers_calls .empty (Or.inl rfl) (.mixed 5) [.learn "the cat sat."] .usual
    " ChatTER, the cat sat. " dice hroom
  obtain ⟨reply, newer, last, hreply, houtcome⟩ := hspoken "ChatTER" " the cat sat." hcalls (by decide +kernel)
  rw [hreply] at hsaid
  have hecho := Except.ok.inj hsaid
  have hsome : (symbolsOf (Text.trim " the cat sat.")).filter (!·.isStop) ≠ [] := by decide +kernel
  refine ⟨hroom, hcalls, reply, newer, last, hreply, houtcome.trans ?_⟩
  rw [hecho, if_neg hsome, if_pos rfl]
  rfl

/-- A line that calls by a head of more bytes than the name has is learned, whatever a reply to it would say. -/
theorem run_ignores_longer_call :
    let settings : Settings := { Settings.usual with nickname := "weiß" }
    let brain := ((Conversation.start .empty (.mixed 5)).run [.learn "the cat sat."]).brain
    let dice := Dice.evenlySpaced 0 0
    settings.Calls (Text.trim "WEIẞ: the") "WEIẞ" " the" ∧
      (∃ reply, (brain.reply (Text.trim " the") dice).1 = .ok reply ∧ textOf reply.said = "The cat sat.") ∧
      (Chat.take ⟨settings, brain⟩ "WEIẞ: the" dice).1 = .ok none := by
  intro settings brain dice
  have hcalls : settings.Calls (Text.trim "WEIẞ: the") "WEIẞ" " the" :=
    ⟨':', by decide +kernel, by decide +kernel, by decide +kernel⟩
  have hreply : (brain.reply (Text.trim " the") dice).1 =
      .ok ⟨[.word "THE"], [.word "THE", .word "CAT", .word "SAT", .mark .period]⟩ := by decide +kernel
  exact ⟨hcalls, ⟨_, hreply, by decide +kernel⟩, by decide +kernel⟩

end Conversation

end Banter
