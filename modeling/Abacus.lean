import Abacus.Console
import Abacus.Main
import Abacus.Session
import Abacus.Tree
import Abacus.Proofs.Grammar
import Abacus.Proofs.Precedence
import Abacus.Proofs.Spine
import Abacus.Proofs.Arrangement
import Abacus.Proofs.Conservation
import Abacus.Proofs.Grouping
import Abacus.Proofs.Classification
import Abacus.Proofs.Juxtaposition
import Abacus.Proofs.Matching
import Abacus.Proofs.Rearrangement
import Abacus.Proofs.Shortcut
import Abacus.Proofs.Joining
import Abacus.Proofs.Symbols
import Abacus.Proofs.Placement
import Abacus.Proofs.Readback
import Abacus.Proofs.Agreement
import Abacus.Proofs.Numerals
import Abacus.Proofs.Spelling
import Abacus.Proofs.Writing
import Abacus.Proofs.Evaluation
import Abacus.Proofs.Postorder
import Abacus.Proofs.Rowwise
import Abacus.Proofs.Longest
import Abacus.Proofs.Viability
import Abacus.Proofs.Cutting
import Abacus.Proofs.Splicing
import Abacus.Proofs.Nesting
import Abacus.Proofs.Substitution
import Abacus.Proofs.Ending
import Abacus.Proofs.Derivation
import Abacus.Proofs.Congruence
import Abacus.Proofs.Likeness
import Abacus.Proofs.Ranking
import Abacus.Proofs.Bindings
import Abacus.Proofs.Messages
import Abacus.Proofs.Transcripts
import Abacus.Proofs.Relevance
import Abacus.Proofs.History
import Abacus.Proofs.Kinds
