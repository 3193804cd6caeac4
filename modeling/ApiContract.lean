import ApiContract.Main
import ApiContract.Proofs.Walk.Steady
import ApiContract.Proofs.Parameter.Steady
import ApiContract.Calls
import ApiContract.Proofs.Calls
import ApiContract.Proofs.Walk.Loud
import ApiContract.Proofs.Parameter.Stages
import ApiContract.Proofs.Exchange.Sides
import ApiContract.Proofs.Exchange.Accepted
import ApiContract.Proofs.Exchange.Unrelated
import ApiContract.Proofs.Walk.Law
import ApiContract.Proofs.Walk.Memory
import ApiContract.Proofs.Schema.Lawful
import ApiContract.Proofs.Parameter.Lawful
import ApiContract.Proofs.Walk.Result
import ApiContract.Proofs.Schema.Asks
import ApiContract.Proofs.Schema.Accounts
import ApiContract.Proofs.Schema.Holds
import ApiContract.Proofs.Schema.Satisfaction
import ApiContract.Proofs.Schema.Plan
import ApiContract.Proofs.Text.Utf8
import ApiContract.Proofs.Text.Pieces
import ApiContract.Proofs.Text.Percent
import ApiContract.Proofs.Url.Fragment
import ApiContract.Proofs.Schema.Reach
import ApiContract.Proofs.Schema.Recursion
import ApiContract.Proofs.Schema.CycleCheck
import ApiContract.Proofs.Schema.Location
import ApiContract.Proofs.Value.Rearranged
import ApiContract.Proofs.Value.Refinement
import ApiContract.Proofs.Value.Reordering
import ApiContract.Proofs.Value.Merge
import ApiContract.Proofs.Value.Pairs
import ApiContract.Proofs.Schema.Likeness
import ApiContract.Proofs.Schema.ConstraintOrder
import ApiContract.Proofs.Schema.KeyOrder
import ApiContract.Proofs.Schema.Permutation
import ApiContract.Proofs.Schema.PatternsApart
import ApiContract.Proofs.Schema.Ends
import ApiContract.Proofs.Schema.Visits
import ApiContract.Proofs.Schema.Format
import ApiContract.Proofs.Schema.Rewriting
import ApiContract.Proofs.Schema.Untouched
import ApiContract.Proofs.Schema.Conjunction
import ApiContract.Proofs.Schema.Defaults
import ApiContract.Proofs.Schema.Filling
import ApiContract.Proofs.Schema.FilledDefault
import ApiContract.Proofs.Regex.Lookahead
import ApiContract.Proofs.Regex.Continuation
import ApiContract.Proofs.Regex.Joining
import ApiContract.Proofs.Schema.Coverage
import ApiContract.Proofs.Parameter.Conversion
import ApiContract.Proofs.Walk.Agreement
import ApiContract.Proofs.Schema.ReadAlike
import ApiContract.Proofs.Parameter.Lookup
import ApiContract.Proofs.Parameter.Union
import ApiContract.Proofs.Exchange.Route
import ApiContract.Proofs.Exchange.Table
import ApiContract.Proofs.Parameter.Collection
import ApiContract.Proofs.Parameter.DeclarationOrder
import ApiContract.Proofs.Parameter.Override
import ApiContract.Proofs.Parameter.Query
import ApiContract.Proofs.Parameter.DeepObject
import ApiContract.Proofs.Parameter.TextList
import ApiContract.Proofs.Number.Decimal
import ApiContract.Proofs.Value.Pointer
import ApiContract.Proofs.Schema.References
import ApiContract.Proofs.Parameter.IntegerList
import ApiContract.Proofs.Exchange.Carriage
import ApiContract.Proofs.Parameter.Transport
import ApiContract.Proofs.Schema.Silent
import ApiContract.Proofs.Number.Order
import ApiContract.Proofs.Parameter.Bounds
import ApiContract.Proofs.Parameter.Candidates
import ApiContract.Proofs.Description.Component
import ApiContract.Proofs.Parameter.MissingDefault
import ApiContract.Proofs.Parameter.PairText
import ApiContract.Proofs.Value.Path
import ApiContract.Proofs.Value.PathMerge
import ApiContract.Proofs.Value.PathOverlay
import ApiContract.Proofs.Value.LeftmostUnion
import ApiContract.Proofs.Value.Equality
import ApiContract.Proofs.Parameter.TypedLeaves
import ApiContract.Proofs.Exchange.Status
import ApiContract.Proofs.Parameter.Refusals
import ApiContract.Proofs.Schema.Strictness
import ApiContract.Proofs.Text.Digits
import ApiContract.Proofs.Value.ReadBack
import ApiContract.Proofs.Leaf.Base64
import ApiContract.Proofs.Leaf.Date
import ApiContract.Proofs.Leaf.Timestamp
import ApiContract.Proofs.Leaf.Address
import ApiContract.Proofs.Schema.LeafText
import ApiContract.Proofs.Value.Sent
import ApiContract.Proofs.Schema.ChangedParts
import ApiContract.Proofs.Schema.MetAgain
import ApiContract.Proofs.Schema.Revalidation
