import Banter.Symbol

namespace Banter

/-- The number that a lexicon gives to a symbol. -/
abbrev SymbolId := UInt16

/-- What makes a sequence of bytes no brain file. -/
inductive Defect where
  | endOfFile
  | longLength
  | notUtf8
  | unknownMark (index : UInt8)
  | unknownTag (tag : UInt8)
  | repeatedSymbol (position : Nat)
  | unlistedId (id : SymbolId)
  | tooDeep
  | unsortedChildren (id : SymbolId)
  | trailingBytes (count : Nat)
deriving DecidableEq, Repr

def Defect.message : Defect → String
  | endOfFile => "unexpected end of file"
  | longLength => "string length prefix too long"
  | notUtf8 => "string is not valid UTF-8"
  | unknownMark index => s!"unknown punctuation kind {index.toNat}"
  | unknownTag tag => s!"unknown symbol tag {tag.toNat}"
  | repeatedSymbol position => s!"duplicate symbol table entry at index {position}"
  | unlistedId id => s!"token {id.toNat} is outside the symbol table"
  | tooDeep => "trie is deeper than any learned path"
  | unsortedChildren id => s!"children of token {id.toNat} are not sorted"
  | trailingBytes count => s!"{count} trailing bytes after the backward trie"

/-- Why a file could not be read or written. -/
inductive FileTrouble where
  | notFound
  | isFolder
  | notFolder
  | alreadyExists
  | longName
  | nullInPath
  | invalidPath
  | busy
  | notUtf8
deriving DecidableEq, Repr

def FileTrouble.message : FileTrouble → String
  | notFound => "No such file or directory (os error 2)"
  | isFolder => "Is a directory (os error 21)"
  | notFolder => "Not a directory (os error 20)"
  | alreadyExists => "File exists (os error 17)"
  | longName => "File name too long (os error 36)"
  | nullInPath => "file name contained an unexpected NUL byte"
  | invalidPath => "Invalid argument (os error 22)"
  | busy => "Device or resource busy (os error 16)"
  | notUtf8 => "stream did not contain valid UTF-8"

/-- Why a text is no settings: it breaks the grammar of JSON, it ends too early, or a value is not of
the kind that its place asks for. -/
inductive JsonTrouble where
  | malformed
  | incomplete
  | misfit
deriving DecidableEq, Repr

def JsonTrouble.message : JsonTrouble → String
  | malformed => "malformed JSON"
  | incomplete => "JSON ends too early"
  | misfit => "JSON of the wrong kind"

inductive Fault where
  | full (limit : Nat)
  | unassignedId (id : SymbolId)
  | unknownSymbol (symbol : Symbol)
  | defective (defect : Defect)
  | file (trouble : FileTrouble)
  | settings (trouble : JsonTrouble)
deriving DecidableEq, Repr

def Fault.message : Fault → String
  | full limit => s!"Capacity exceeded: at most {limit} entries fit a 16-bit id space"
  | unassignedId id => s!"Invalid token id: {id.toNat}"
  | unknownSymbol symbol => s!"Symbol was never interned: {symbol.described}"
  | defective defect => s!"Malformed model file: {defect.message}"
  | file trouble => s!"IO error: {trouble.message}"
  | settings trouble => s!"Config error: {trouble.message}"

theorem bind_eq_ok_iff {ε α β : Type} {result : Except ε α} {next : α → Except ε β} {value : β} :
    (result >>= next) = .ok value ↔ ∃ found, result = .ok found ∧ next found = .ok value := by
  cases result with
  | error fault => simp [bind, Except.bind]
  | ok found => simp [bind, Except.bind]

theorem map_eq_ok_iff {ε α β : Type} {result : Except ε α} {f : α → β} {value : β} :
    result.map f = .ok value ↔ ∃ found, result = .ok found ∧ f found = value := by
  cases result with
  | error fault => simp [Except.map]
  | ok found => simp [Except.map]

end Banter
