import LoxScript.CommandLine
import LoxScript.Environment.Script
import LoxScript.Main
import LoxScript.Tree.Source
import LoxScript.Proofs.Caret
import LoxScript.Proofs.Grammar.Layers
import LoxScript.Proofs.Grammar.Limit
import LoxScript.Proofs.Grammar.Prefixes
import LoxScript.Proofs.Grammar.Recovery
import LoxScript.Proofs.Grammar.Segments
import LoxScript.Proofs.Layout
import LoxScript.Proofs.Outline.Unambiguous
import LoxScript.Proofs.Printing.Alternatives
import LoxScript.Proofs.Printing.Meaning
import LoxScript.Proofs.Printing.Numbers
import LoxScript.Proofs.Quotation
import LoxScript.Proofs.Reporters
import LoxScript.Proofs.Scanning.Places
import LoxScript.Proofs.Scope.Globals
import LoxScript.Proofs.Scope.Increment
import LoxScript.Proofs.Scope.Noted
import LoxScript.Proofs.Scope.Maps
import LoxScript.Proofs.Scope.Restored
import LoxScript.Proofs.Settings
import LoxScript.Proofs.Verdict
import LoxScript.Proofs.Work
