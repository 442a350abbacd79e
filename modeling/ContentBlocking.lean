import ContentBlocking.Audit
import ContentBlocking.CommandLine
import ContentBlocking.Compile.Build
import ContentBlocking.Compile.Overrides
import ContentBlocking.Compile.Plan
import ContentBlocking.Compile.Tracker
import ContentBlocking.Dataset
import ContentBlocking.Dataset.Wire
import ContentBlocking.Filter
import ContentBlocking.Json.Decoder
import ContentBlocking.Json.Document
import ContentBlocking.Json.Problem
import ContentBlocking.Json.Reader
import ContentBlocking.Json.Symbol
import ContentBlocking.Json.Token
import ContentBlocking.Json.Value
import ContentBlocking.Log
import ContentBlocking.Main
import ContentBlocking.Number.Binary64
import ContentBlocking.Pattern.Alphabet
import ContentBlocking.Pattern.Basic
import ContentBlocking.Pattern.Beginning
import ContentBlocking.Pattern.Bracket
import ContentBlocking.Pattern.ByteForm
import ContentBlocking.Pattern.Escape
import ContentBlocking.Pattern.Flags
import ContentBlocking.Pattern.Machine
import ContentBlocking.Pattern.MachineSize
import ContentBlocking.Pattern.Occurrence
import ContentBlocking.Pattern.Outline
import ContentBlocking.Pattern.Parser
import ContentBlocking.Pattern.Progress
import ContentBlocking.Pattern.SetMachine
import ContentBlocking.Pattern.Spacing
import ContentBlocking.Pattern.TextMachine
import ContentBlocking.Pattern.Token
import ContentBlocking.Pattern.Written
import ContentBlocking.Proofs.Alias.BorrowedRules
import ContentBlocking.Proofs.Audit.Sources
import ContentBlocking.Proofs.Dataset.MemberOrder
import ContentBlocking.Proofs.Dataset.OwnerGrowth
import ContentBlocking.Proofs.Dataset.OwnerResolution
import ContentBlocking.Proofs.Dataset.Placements
import ContentBlocking.Proofs.Dataset.PlainTrackers
import ContentBlocking.Proofs.Dataset.RoundTrip
import ContentBlocking.Proofs.Dataset.Segments
import ContentBlocking.Proofs.Dataset.TrackerSearch
import ContentBlocking.Proofs.Dataset.UnknownAttributes
import ContentBlocking.Proofs.Dataset.UnknownMembers
import ContentBlocking.Proofs.Filter.AllowlistLanguage
import ContentBlocking.Proofs.Filter.AllowlistTree
import ContentBlocking.Proofs.Filter.DomainLanguage
import ContentBlocking.Proofs.Filter.DomainTree
import ContentBlocking.Proofs.Filter.EscapedText
import ContentBlocking.Proofs.Filter.Escaping
import ContentBlocking.Proofs.Filter.FilterHost
import ContentBlocking.Proofs.Filter.FilterSize
import ContentBlocking.Proofs.Filter.UrlParts
import ContentBlocking.Proofs.Filter.WholeDomain
import ContentBlocking.Proofs.Json.Acceptance
import ContentBlocking.Proofs.Json.Grammar
import ContentBlocking.Proofs.Json.MemberOrder
import ContentBlocking.Proofs.Json.Members
import ContentBlocking.Proofs.Json.Reading
import ContentBlocking.Proofs.Json.Reordering
import ContentBlocking.Proofs.Json.RepeatedMembers
import ContentBlocking.Proofs.Json.Replacing
import ContentBlocking.Proofs.Json.RoundTrip
import ContentBlocking.Proofs.Json.Scanning
import ContentBlocking.Proofs.Json.Spelling
import ContentBlocking.Proofs.Json.UnknownMembers
import ContentBlocking.Proofs.Json.Writing
import ContentBlocking.Proofs.Override.Precedence
import ContentBlocking.Proofs.Pattern.CharBytes
import ContentBlocking.Proofs.Pattern.Languages
import ContentBlocking.Proofs.Pattern.LineStates
import ContentBlocking.Proofs.Pattern.MachineBound
import ContentBlocking.Proofs.Pattern.MachineGrowth
import ContentBlocking.Proofs.Pattern.OutlineBound
import ContentBlocking.Proofs.Pattern.Reading
import ContentBlocking.Proofs.Pattern.SequenceBytes
import ContentBlocking.Proofs.Pattern.SharedStates
import ContentBlocking.Proofs.Pattern.SteadyGrowth
import ContentBlocking.Proofs.Pattern.WholeBeginnings
import ContentBlocking.Proofs.Plan.DecisionTable
import ContentBlocking.Proofs.Plan.EmittedRules
import ContentBlocking.Proofs.RuleList.Decision
import ContentBlocking.Proofs.RuleList.FirstOccurrences
import ContentBlocking.Proofs.RuleList.MalformedRules
import ContentBlocking.Proofs.RuleList.Outcome
import ContentBlocking.Proofs.RuleList.Repetition
import ContentBlocking.Proofs.RuleList.RoundTrip
import ContentBlocking.Proofs.RuleList.SinglePass
import ContentBlocking.Proofs.SortedMap
import ContentBlocking.Proofs.Text.Folding
import ContentBlocking.Proofs.Text.LineList
import ContentBlocking.Proofs.Text.Variants
import ContentBlocking.Proofs.Tracker.DefaultCopies
import ContentBlocking.Proofs.Tracker.GroupOrder
import ContentBlocking.Proofs.Tracker.OwnerPages
import ContentBlocking.Proofs.Tracker.PopupExemptions
import ContentBlocking.Proofs.Tracker.Popups
import ContentBlocking.Proofs.Tracker.Repetition
import ContentBlocking.Proofs.Tracker.Retargeting
import ContentBlocking.Proofs.Tracker.Rules
import ContentBlocking.Proofs.Trigger.Coverage
import ContentBlocking.Proofs.Trigger.PageLists
import ContentBlocking.Proofs.Url.Authority
import ContentBlocking.Proofs.Url.FilledLabels
import ContentBlocking.Proofs.Url.HostGrammar
import ContentBlocking.Proofs.Url.PageDomains
import ContentBlocking.Request
import ContentBlocking.Rule
import ContentBlocking.Rule.Wire
import ContentBlocking.RuleList.Match
import ContentBlocking.RuleList.Replay
import ContentBlocking.SortedMap
import ContentBlocking.Text.CharSet
import ContentBlocking.Text.CharSet.Distances
import ContentBlocking.Text.CharSet.Sweep
import ContentBlocking.Text.Folding
import ContentBlocking.Text.Letter
import ContentBlocking.Text.LineList
import ContentBlocking.Text.Property
import ContentBlocking.Text.Property.Age
import ContentBlocking.Text.Property.Binary
import ContentBlocking.Text.Property.Break
import ContentBlocking.Text.Property.Category
import ContentBlocking.Text.Property.NamedSet
import ContentBlocking.Text.Property.Script
import ContentBlocking.Text.Property.ScriptExtension
import ContentBlocking.Text.Quoted
import ContentBlocking.Url
