import RequestGroups.Expansion.Expand
import RequestGroups.Grammar.FromText
import RequestGroups.Proofs.Config.LastAssignments
import RequestGroups.Proofs.Declaration.Registration
import RequestGroups.Proofs.Dictionary.Policies
import RequestGroups.Proofs.Expansion.FieldTypes
import RequestGroups.Proofs.Expansion.FirstProblem
import RequestGroups.Proofs.Expansion.LeadingKeys
import RequestGroups.Proofs.Expansion.Lookups
import RequestGroups.Proofs.Expansion.MarkerSplit
import RequestGroups.Proofs.Expansion.Markings
import RequestGroups.Proofs.Expansion.MethodCalls
import RequestGroups.Proofs.Expansion.RawNames
import RequestGroups.Proofs.Expansion.ReadBack
import RequestGroups.Proofs.Expansion.Reordering
import RequestGroups.Proofs.Expansion.RuntimeTokens
import RequestGroups.Proofs.Expansion.Stripper
import RequestGroups.Proofs.Instance.Degrading
import RequestGroups.Proofs.Sample.Reachable
