import TreeSchema.Main
import TreeSchema.Session
import TreeSchema.Proofs.Verdict
import TreeSchema.Proofs.Expansion
import TreeSchema.Proofs.Agreement
import TreeSchema.Proofs.Placement
import TreeSchema.Proofs.Precedence
import TreeSchema.Proofs.Rounding
import TreeSchema.Proofs.Spelling
import TreeSchema.Proofs.Respelling
import TreeSchema.Proofs.Reading
import TreeSchema.Proofs.Dependence
import TreeSchema.Proofs.Predicates
import TreeSchema.Proofs.History
import TreeSchema.Proofs.ExitCode
import TreeSchema.Proofs.Keywords
import TreeSchema.Proofs.Permutation
import TreeSchema.Proofs.ListedIds
import TreeSchema.Proofs.Strengthening
import TreeSchema.Proofs.Unread
import TreeSchema.Proofs.Pointer
import TreeSchema.Proofs.MemberWise
import TreeSchema.Proofs.Counts
import TreeSchema.Proofs.IntegerBounds
import TreeSchema.Proofs.Equality
import TreeSchema.Proofs.Repetition
import TreeSchema.Proofs.Conversion
import TreeSchema.Proofs.Shortest
import TreeSchema.Proofs.Numerals
import TreeSchema.Proofs.Keys
import TreeSchema.Proofs.Relocation
import TreeSchema.Proofs.PathText
import TreeSchema.Proofs.FileNames
import TreeSchema.Proofs.Printing
import TreeSchema.Proofs.Reports
