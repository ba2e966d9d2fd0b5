import Banter.Proofs.BrainFile.Decoding
import Banter.Proofs.BrainFile.Defects
import Banter.Proofs.BrainFile.Lengths

/-!
# The normal form of a brain file

Writing the brain that was read from a file gives the shortest file of that brain. A file differs from it
in the lengths of its texts only, which may be spelled with more bytes than they need.
-/

namespace Banter.BrainFile

/-- The spelling of the length in the symbol at the front, if it has a text. -/
def symbolCodes : List UInt8 → List (List UInt8)
  | [] => []
  | tag :: bytes => if tag = wordTag ∨ tag = addressTag then [lengthCode bytes] else []

/-- What is collected from each of the given number of items at the front. -/
def collect {α : Type} (item : Reader α) (codes : List UInt8 → List (List UInt8)) :
    (count : Nat) → List UInt8 → List (List UInt8)
  | 0, _ => []
  | count + 1, bytes =>
    match item bytes with
    | .ok (_, rest) => codes bytes ++ collect item codes count rest
    | .error _ => []

def lengthCodes (bytes : List UInt8) : List (List UInt8) :=
  match readWord bytes with
  | .ok (count, rest) => collect readSymbol symbolCodes count.toNat rest
  | .error _ => []

/-- Whether writing what was read shortens the bytes, and leaves them if all collected lengths are short. -/
def Normalizes {α : Type} (item : Reader α) (write : α → List UInt8)
    (codes : List UInt8 → List (List UInt8)) : Prop :=
  ∀ bytes value rest, item bytes = .ok (value, rest) → ∃ front, bytes = front ++ rest ∧
    Shortens front (write value) (∀ code ∈ codes bytes, IsShortest code)

theorem eq_of_normalizes {α : Type} {item : Reader α} {write : α → List UInt8}
    (h : Normalizes item write fun _ => []) {bytes rest : List UInt8} {value : α}
    (hread : item bytes = .ok (value, rest)) : bytes = write value ++ rest := by
  obtain ⟨front, hbytes, _, hsame⟩ := h bytes value rest hread
  rw [hbytes, hsame.mpr (by simp)]

theorem normalizes_readWord : Normalizes readWord wordBytes fun _ => [] := by
  intro bytes word rest h
  unfold readWord at h
  split at h
  next low high after =>
    obtain ⟨hword, rfl⟩ := Prod.mk.inj (Except.ok.inj h)
    have hbytes : wordBytes word = [low, high] := by
      have hlow := low.toNat_lt
      have hhigh := high.toNat_lt
      rw [wordBytes, ← hword]
      congr 1
      · apply UInt8.toNat_inj.mp
        simp
      · congr 1
        apply UInt8.toNat_inj.mp
        simp [Nat.shiftRight_eq_div_pow]
        omega
    refine ⟨[low, high], rfl, ?_⟩
    rw [hbytes]
    exact Shortens.refl _
  next => exact absurd h (by simp [defect])

private theorem readText_eq_ok {bytes rest : List UInt8} {text : String}
    (h : readText bytes = .ok (text, rest)) :
    readLengthWithin lengthBytesLimit bytes = .ok ((Text.toUtf8 text).length, Text.toUtf8 text ++ rest) := by
  obtain ⟨⟨length, afterLength⟩, hlength, h⟩ := bind_eq_ok_iff.mp h
  obtain ⟨⟨content, after⟩, hcontent, h⟩ := bind_eq_ok_iff.mp h
  dsimp only [readBytes] at hcontent
  split at hcontent
  next htaken =>
    obtain ⟨rfl, rfl⟩ := Prod.mk.inj (Except.ok.inj hcontent)
    dsimp only at h
    split at h
    next found hfound =>
      obtain ⟨rfl, rfl⟩ := Prod.mk.inj (Except.ok.inj h)
      rw [← Text.ofUtf8?_eq_some_iff.mp hfound, htaken, List.take_append_drop]
      exact hlength
    next => exact absurd h (by simp [defect])
  next => exact absurd hcontent (by simp [defect])

theorem normalizes_readText : Normalizes readText textBytes fun bytes => [lengthCode bytes] := by
  intro bytes text rest h
  obtain ⟨hbytes, halone⟩ := readLengthWithin_lengthCode (readText_eq_ok h)
  refine ⟨lengthCode bytes ++ Text.toUtf8 text, ?_, ?_⟩
  · rw [List.append_assoc]
    exact hbytes
  · simpa [textBytes] using (shortens_lengthBytes halone).append (Shortens.refl (Text.toUtf8 text))

private theorem readSymbol_cases {bytes rest : List UInt8} {symbol : Symbol}
    (h : readSymbol bytes = .ok (symbol, rest)) :
    (∃ kind, symbol = .mark kind ∧ bytes = markTag :: kind.index :: rest) ∨
    (symbol = .stop ∧ bytes = stopTag :: rest) ∨
    ∃ text after, readText after = .ok (text, rest) ∧
      (symbol = .word text ∧ bytes = wordTag :: after ∨
        symbol = .address text ∧ bytes = addressTag :: after) := by
  obtain ⟨⟨tag, afterTag⟩, htag, h⟩ := bind_eq_ok_iff.mp h
  cases bytes with
  | nil => exact absurd htag (by simp [readByte, defect])
  | cons byte bytes =>
    obtain ⟨rfl, rfl⟩ := Prod.mk.inj (Except.ok.inj htag)
    dsimp only at h
    split_ifs at h with hmark hword hstop haddress
    · obtain ⟨⟨index, afterIndex⟩, hindex, h⟩ := bind_eq_ok_iff.mp h
      cases bytes with
      | nil => exact absurd hindex (by simp [readByte, defect])
      | cons byte bytes =>
        obtain ⟨rfl, rfl⟩ := Prod.mk.inj (Except.ok.inj hindex)
        dsimp only at h
        split at h
        next kind hkind =>
          obtain ⟨rfl, rfl⟩ := Prod.mk.inj (Except.ok.inj h)
          exact Or.inl ⟨kind, rfl, by rw [hmark, Mark.ofIndex?_eq_some_iff.mp hkind]⟩
        next => exact absurd h (by simp [defect])
    · obtain ⟨⟨text, after⟩, htext, h⟩ := bind_eq_ok_iff.mp h
      obtain ⟨rfl, rfl⟩ := Prod.mk.inj (Except.ok.inj h)
      exact Or.inr (Or.inr ⟨text, bytes, htext, Or.inl ⟨rfl, by rw [hword]⟩⟩)
    · obtain ⟨rfl, rfl⟩ := Prod.mk.inj (Except.ok.inj h)
      exact Or.inr (Or.inl ⟨rfl, by rw [hstop]⟩)
    · obtain ⟨⟨text, after⟩, htext, h⟩ := bind_eq_ok_iff.mp h
      obtain ⟨rfl, rfl⟩ := Prod.mk.inj (Except.ok.inj h)
      exact Or.inr (Or.inr ⟨text, bytes, htext, Or.inr ⟨rfl, by rw [haddress]⟩⟩)
    · exact absurd h (by simp [defect])

theorem normalizes_readSymbol : Normalizes readSymbol symbolBytes symbolCodes := by
  intro bytes symbol rest h
  rcases readSymbol_cases h with ⟨kind, rfl, rfl⟩ | ⟨rfl, rfl⟩ | ⟨text, after, htext, hsymbol⟩
  · exact ⟨[markTag, kind.index], rfl, Shortens.refl _⟩
  · exact ⟨[stopTag], rfl, Shortens.refl _⟩
  · obtain ⟨front, rfl, hshortens⟩ := normalizes_readText after text rest htext
    have htagged (tag : UInt8) := (Shortens.refl [tag]).append hshortens
    rcases hsymbol with ⟨rfl, rfl⟩ | ⟨rfl, rfl⟩
    · exact ⟨wordTag :: front, rfl, by simpa [symbolCodes, symbolBytes] using htagged wordTag⟩
    · exact ⟨addressTag :: front, rfl, by simpa [symbolCodes, symbolBytes] using htagged addressTag⟩

theorem hasShortText_of_readSymbol {bytes rest : List UInt8} {symbol : Symbol}
    (h : readSymbol bytes = .ok (symbol, rest)) : HasShortText symbol := by
  rcases readSymbol_cases h with ⟨kind, rfl, _⟩ | ⟨rfl, _⟩ | ⟨text, after, htext, hsymbol⟩
  · exact trivial
  · exact trivial
  · have hshort := (lengthBytes_le (readLengthWithin_lengthCode (readText_eq_ok htext)).2).1
    rcases hsymbol with ⟨rfl, _⟩ | ⟨rfl, _⟩
    · exact hshort
    · exact hshort

theorem collect_nil {α : Type} (item : Reader α) (count : Nat) (bytes : List UInt8) :
    collect item (fun _ => []) count bytes = [] := by
  induction count generalizing bytes with
  | zero => rfl
  | succ count ih =>
    rw [collect]
    split
    next => exact ih _
    next => rfl

private theorem shortens_readOnto {α : Type} {item : Reader α} {write : α → List UInt8}
    {codes : List UInt8 → List (List UInt8)} (hitem : Normalizes item write codes) {count : Nat}
    {done values : Array α} {bytes rest : List UInt8}
    (h : readOnto item count done bytes = .ok (values, rest)) :
    ∃ added front, values.toList = done.toList ++ added ∧ bytes = front ++ rest ∧
      Shortens front (added.flatMap write) (∀ code ∈ collect item codes count bytes, IsShortest code) := by
  induction count generalizing done bytes with
  | zero =>
    obtain ⟨rfl, rfl⟩ := Prod.mk.inj (Except.ok.inj h)
    exact ⟨[], [], by simp, rfl, Shortens.refl []⟩
  | succ count ih =>
    rw [readOnto] at h
    split at h
    next value after hvalue =>
      obtain ⟨front, hbytes, hfront⟩ := hitem bytes value after hvalue
      obtain ⟨added, back, hvalues, hafter, hback⟩ := ih h
      refine ⟨value :: added, front ++ back, ?_, ?_, ?_⟩
      · rw [hvalues, Array.toList_push, List.append_assoc, List.singleton_append]
      · rw [hbytes, hafter, List.append_assoc]
      · simp only [collect, hvalue, List.forall_mem_append, List.flatMap_cons]
        exact hfront.append hback
    next => exact absurd h (by simp)

theorem normalizes_readMany {α : Type} {item : Reader α} {write : α → List UInt8}
    {codes : List UInt8 → List (List UInt8)} (hitem : Normalizes item write codes) (count : Nat) :
    Normalizes (readMany item count) (fun values => values.toList.flatMap write)
      (collect item codes count) := by
  intro bytes values rest h
  obtain ⟨added, front, hvalues, hbytes, hshortens⟩ := shortens_readOnto hitem h
  obtain rfl : values.toList = added := hvalues
  exact ⟨front, hbytes, hshortens⟩

private theorem readNode_eq_ok {isAllowed : SymbolId → Bool} {mayBranch : Bool} {bytes rest : List UInt8}
    {id : SymbolId} {count : UInt16} (h : readNode isAllowed mayBranch bytes = .ok ((id, count), rest)) :
    bytes = wordBytes id ++ (wordBytes count ++ rest) ∧ (mayBranch = false → count = 0) := by
  obtain ⟨⟨top, afterTop⟩, htop, h⟩ := bind_eq_ok_iff.mp h
  dsimp only at h
  split at h
  next => exact absurd h (by simp [defect])
  next =>
    obtain ⟨⟨found, after⟩, hcount, h⟩ := bind_eq_ok_iff.mp h
    dsimp only at h
    split at h
    next => exact absurd h (by simp [defect])
    next hroom =>
      obtain ⟨hnode, rfl⟩ := Prod.mk.inj (Except.ok.inj h)
      obtain ⟨rfl, rfl⟩ := Prod.mk.inj hnode
      rw [eq_of_normalizes normalizes_readWord htop, eq_of_normalizes normalizes_readWord hcount]
      exact ⟨rfl, fun hbranch => by simpa [hbranch] using hroom⟩

theorem trieBytes_of_readTrie {isListed isAllowed : SymbolId → Bool} {depth : Nat}
    {bytes rest : List UInt8} {trie : Trie}
    (h : readTrie isListed depth isAllowed bytes = .ok (trie, rest)) :
    fits trie = true ∧ bytes = trieBytes trie ++ rest := by
  induction depth generalizing isAllowed bytes rest trie with
  | zero =>
    obtain ⟨⟨⟨id, count⟩, after⟩, hnode, h⟩ := bind_eq_ok_iff.mp h
    obtain ⟨rfl, rfl⟩ := Prod.mk.inj (Except.ok.inj h)
    obtain ⟨hbytes, hcount⟩ := readNode_eq_ok hnode
    obtain rfl := hcount rfl
    rw [Trie.leaf, fits_node, trieBytes_node]
    exact ⟨by simp, by simpa using hbytes⟩
  | succ depth ih =>
    obtain ⟨⟨⟨id, count⟩, afterNode⟩, hnode, h⟩ := bind_eq_ok_iff.mp h
    obtain ⟨⟨children, after⟩, hchildren, h⟩ := bind_eq_ok_iff.mp h
    obtain ⟨found, hfound, h⟩ := bind_eq_ok_iff.mp h
    obtain ⟨rfl, rfl⟩ := Prod.mk.inj (Except.ok.inj h)
    obtain ⟨_, rfl⟩ := nodeOf_eq_ok_iff.mp hfound
    have hsize := size_of_readMany hchildren
    have hfits := forall_of_readMany (fun _ _ _ hchild => (ih hchild).1) hchildren
    have hchild : Normalizes (readTrie isListed depth isListed) trieBytes fun _ => [] := by
      intro bytes child rest hchild
      obtain ⟨_, rfl⟩ := ih hchild
      exact ⟨trieBytes child, rfl, Shortens.refl _⟩
    have hmany := normalizes_readMany hchild count.toNat
    rw [funext (collect_nil _ _)] at hmany
    rw [fits_node, trieBytes_node, hsize, UInt16.ofNat_toNat, (readNode_eq_ok hnode).1,
      eq_of_normalizes hmany hchildren]
    exact ⟨⟨Nat.le_of_lt_succ count.toNat_lt, hfits⟩, by simp only [List.append_assoc]⟩

theorem shortens_readLexicon {bytes rest : List UInt8} {lexicon : Lexicon}
    (h : readLexicon bytes = .ok (lexicon, rest)) :
    lexicon.size ≤ countLimit ∧ (∀ symbol ∈ lexicon.symbols, HasShortText symbol) ∧
      ∃ front, bytes = front ++ rest ∧ Shortens front
        (wordBytes (UInt16.ofNat lexicon.size) ++ lexicon.symbols.toList.flatMap symbolBytes)
        (∀ code ∈ lengthCodes bytes, IsShortest code) := by
  obtain ⟨⟨count, afterCount⟩, hcount, h⟩ := bind_eq_ok_iff.mp h
  obtain ⟨⟨symbols, after⟩, hsymbols, h⟩ := bind_eq_ok_iff.mp h
  obtain ⟨found, hfound, h⟩ := bind_eq_ok_iff.mp h
  obtain ⟨rfl, rfl⟩ := Prod.mk.inj (Except.ok.inj h)
  obtain rfl : found.symbols = symbols := Array.toList_inj.mp (Lexicon.ofList_eq_ok_iff.mp hfound)
  have hsize : found.size = count.toNat := size_of_readMany hsymbols
  obtain ⟨front, rfl, hshortens⟩ := normalizes_readMany normalizes_readSymbol count.toNat _ _ _ hsymbols
  refine ⟨?_, forall_of_readMany (fun _ _ _ => hasShortText_of_readSymbol) hsymbols,
    wordBytes count ++ front, ?_, ?_⟩
  · rw [hsize]
    exact Nat.le_of_lt_succ count.toNat_lt
  · rw [eq_of_normalizes normalizes_readWord hcount, List.append_assoc]
  · rw [hsize, UInt16.ofNat_toNat]
    simpa [lengthCodes, hcount] using (Shortens.refl (wordBytes count)).append hshortens

/-- The bytes of a brain that was read are a shorter spelling of its file, and they can be read. -/
theorem shortens_decode {bytes : List UInt8} {brain : Brain} (h : decode bytes = .ok brain) :
    hasFile brain = true ∧ IsRestorable brain ∧
      Shortens bytes (brainBytes brain) (∀ code ∈ lengthCodes bytes, IsShortest code) := by
  have hsound := isSound_of_decode h
  obtain ⟨⟨lexicon, afterLexicon⟩, hlexicon, h⟩ := bind_eq_ok_iff.mp h
  obtain ⟨⟨onward, afterOnward⟩, honward, h⟩ := bind_eq_ok_iff.mp h
  obtain ⟨⟨backward, rest⟩, hbackward, h⟩ := bind_eq_ok_iff.mp h
  dsimp only at h
  split at h
  next hend =>
    obtain rfl := Except.ok.inj h
    obtain rfl := List.isEmpty_iff.mp hend
    obtain ⟨hsize, hshort, front, hbytes, hshortens⟩ := shortens_readLexicon hlexicon
    obtain ⟨hfitsOnward, rfl⟩ := trieBytes_of_readTrie honward
    obtain ⟨hfitsBackward, rfl⟩ := trieBytes_of_readTrie hbackward
    refine ⟨by simp [hasFile, hsize, hfitsOnward, hfitsBackward],
      ⟨hsound.shallow, hsound.listed, hshort⟩, ?_⟩
    have hpaths := (Shortens.refl (trieBytes onward)).append (Shortens.refl (trieBytes backward))
    have hwhole := hshortens.append hpaths
    rw [List.append_nil] at hbytes
    rw [← hbytes] at hwhole
    simpa [brainBytes] using hwhole
  next => exact absurd h (by simp [defect])

/-- Bytes have a defect, or are the file of a brain that is well formed. Written again, that brain has a
file no longer than this one, which gives the brain back and is the same exactly if all lengths of texts
are spelled as shortly as they can be. -/
theorem encode_decode (bytes : List UInt8) :
    (∃ cause, decode bytes = .error (.defective cause)) ∨
    ∃ brain, decode bytes = .ok brain ∧ brain.lexicon.symbols.toList.Nodup ∧
      (∀ direction, (brain.memory.trie direction).isSorted = true) ∧
      (∀ direction path, (brain.memory.trie direction).HasPath path →
        path.length ≤ 3 ∧ ∀ id ∈ path, id.toNat < brain.lexicon.size) ∧
      ∃ normal, encode brain = .ok normal ∧ decode normal = .ok brain ∧
        normal.length ≤ bytes.length ∧
        (normal = bytes ↔ ∀ code ∈ lengthCodes bytes, IsShortest code) := by
  cases hdecode : decode bytes with
  | error fault =>
    obtain ⟨cause, rfl⟩ := failsByDefect_decode bytes fault hdecode
    exact Or.inl ⟨cause, rfl⟩
  | ok brain =>
    have hsound := isSound_of_decode hdecode
    obtain ⟨hfile, hrestorable, hshorter, hsame⟩ := shortens_decode hdecode
    have hread := (settles_decode (hsound.sorted .onward) (hsound.sorted .backward) hfile).1 hrestorable
    refine Or.inr ⟨brain, rfl, brain.lexicon.nodup_symbols, hsound.sorted, ?_, brainBytes brain,
      if_pos hfile, hread, hshorter, hsame⟩
    intro direction path hpath
    exact ⟨hsound.shallow direction path hpath, hsound.listed direction path hpath⟩

/-- An accepted file with a length in two bytes, where one says the same. -/
theorem encode_decode_longer_length :
    let bytes : List UInt8 := [1, 0, 1, 129, 0, 65, 0, 0, 0, 0, 0, 0, 0, 0]
    ∃ brain normal, decode bytes = .ok brain ∧ encode brain = .ok normal ∧ decode normal = .ok brain ∧
      normal.length ≤ bytes.length ∧ normal ≠ bytes := by
  intro bytes
  have haccepted : (decode bytes).isOk = true := by decide +kernel
  obtain ⟨cause, hrejected⟩ | ⟨brain, hread, _, _, _, normal, hnormal, hagain, hshorter, hsame⟩ :=
    encode_decode bytes
  · rw [hrejected] at haccepted
    cases haccepted
  · refine ⟨brain, normal, hread, hnormal, hagain, hshorter, ?_⟩
    intro heq
    obtain ⟨length, hlong, hleast⟩ := hsame.mp heq [129, 0] (by decide +kernel)
    have hone : readLengthWithin lengthBytesLimit [129, 0] = .ok (1, []) := by decide +kernel
    obtain ⟨rfl, _⟩ := Prod.mk.inj (Except.ok.inj (hlong.symm.trans hone))
    exact absurd (hleast [1] (by decide +kernel)) (by decide)

end Banter.BrainFile
