import Banter.Bisect
import Banter.Reading
import Banter.Symbol
import Banter.Text.Alphanumeric
import Banter.Text.Blank
import Banter.Text.CaseTable
import Banter.Text.Casing
import Banter.Text.CharSet
import Banter.Text.Quoted
import Banter.Text.Unprintable
import Banter.Writing
import Banter.Fault
import Banter.Lexicon
import Banter.Trie
import Banter.Text.Lines
import Banter.Brain
import Banter.Dice
import Banter.Reply
import Banter.BrainFile.Output
import Banter.BrainFile.Reader
import Banter.Disk
import Banter.Errand
import Banter.Storage
import Banter.Json.Number
import Banter.Json.Value
import Banter.Json.Record
import Banter.Json.Standard
import Banter.Settings
import Banter.Settings.Form
import Banter.Chat
import Banter.Session
import Banter.Main
import Banter.Proofs.Trie.Paths
import Banter.Proofs.BrainFile.Pieces
import Banter.Proofs.BrainFile.Settling
import Banter.Proofs.BrainFile.RoundTrip
import Banter.Proofs.Reading.Scanning
import Banter.Proofs.Reading.Simulation
import Banter.Proofs.Reading.Stops
import Banter.Proofs.Brain.Steps
import Banter.Proofs.Conversation.Teaching
import Banter.Proofs.Conversation.Sayings
import Banter.Proofs.Conversation.Safety
import Banter.Proofs.Conversation.Boundaries
import Banter.Proofs.BrainFile.Defects
import Banter.Proofs.BrainFile.NormalForm
import Banter.Proofs.Path.Parents
import Banter.Proofs.Disk.Folders
import Banter.Proofs.Disk.Saving
import Banter.Proofs.Disk.Drafts
import Banter.Proofs.Disk.Mishaps
import Banter.Proofs.Disk.Sparing
import Banter.Proofs.Brain.Vocabulary
import Banter.Proofs.Session.Talk
import Banter.Proofs.Session.Restart
import Banter.Proofs.BrainFile.Extent
import Banter.Proofs.Lexicon.Room
import Banter.Proofs.Trie.Canonical
import Banter.Proofs.Conversation.Capacity
import Banter.Proofs.Lexicon.Numbering
import Banter.Proofs.Reading.Pieces
import Banter.Proofs.Text.Ascii
import Banter.Proofs.Writing.Continuation
import Banter.Proofs.Writing.Plain
import Banter.Proofs.Trie.Counting
import Banter.Proofs.Writing.Rereading
import Banter.Proofs.Conversation.Corpus
import Banter.Proofs.Memory.Additions
import Banter.Proofs.Reading.Blanks
import Banter.Proofs.Reply.Phases
import Banter.Proofs.Chat.Addressing
import Banter.Proofs.Text.Lines
import Banter.Proofs.Brain.Training
import Banter.Proofs.Writing.Neighbours
import Banter.Proofs.Json.Values
import Banter.Proofs.Json.Objects
import Banter.Proofs.Json.Standard
import Banter.Proofs.Settings.Reloading
import Banter.Proofs.BrainFile.Shifting
import Banter.Proofs.Trie.Measures
