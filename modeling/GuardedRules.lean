import GuardedRules.Calls
import GuardedRules.Pattern.Occurrences
import GuardedRules.Pattern.Outline
import GuardedRules.Pattern.Text
import GuardedRules.Proofs.Building
import GuardedRules.Proofs.Covering
import GuardedRules.Proofs.Declarations
import GuardedRules.Proofs.Deconstruction
import GuardedRules.Proofs.Environments
import GuardedRules.Proofs.EqualSubjects
import GuardedRules.Proofs.Exhaustion
import GuardedRules.Proofs.Extending
import GuardedRules.Proofs.ExtractionOrder
import GuardedRules.Proofs.FirstMatch
import GuardedRules.Proofs.Instances
import GuardedRules.Proofs.ListPatterns
import GuardedRules.Proofs.ListWalks
import GuardedRules.Proofs.MergeLaws
import GuardedRules.Proofs.NeverFailing
import GuardedRules.Proofs.Renaming
import GuardedRules.Proofs.RootKeys
import GuardedRules.Proofs.RuleTraces
import GuardedRules.Proofs.SplitArms
import GuardedRules.Proofs.Unrecorded
import GuardedRules.Proofs.Weakening
import GuardedRules.Proofs.WorkList
import GuardedRules.Value.Outline
import GuardedRules.Value.Shape
import GuardedRules.Value.Template
import GuardedRules.Value.Text
import GuardedRules.Binary64.Number
import GuardedRules.Proofs.EqualityLaws
import GuardedRules.Proofs.Lookups
import GuardedRules.Proofs.UniqueReading
