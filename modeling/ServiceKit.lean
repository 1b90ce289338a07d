import ServiceKit.Construction.Samples
import ServiceKit.Construction.Threads
import ServiceKit.Host.Rotation
import ServiceKit.Main
import ServiceKit.Memo.Threads
import ServiceKit.Proofs.Construction.Transparency
import ServiceKit.Proofs.Memo.Script
import ServiceKit.Transfer.Buffered
import ServiceKit.Transfer.Recorded
import ServiceKit.Transfer.Scripted
import ServiceKit.Proofs.Transfer.Turns
import ServiceKit.Proofs.Transfer.Steady
import ServiceKit.Proofs.Transfer.Streams
import ServiceKit.Proofs.Transfer.Agreement
import ServiceKit.Proofs.Transfer.Courses
import ServiceKit.Proofs.Channel.Turns
import ServiceKit.Proofs.Channel.Offers
import ServiceKit.Proofs.Transfer.Calls
import ServiceKit.Transfer.Unseekable
import ServiceKit.Proofs.Transfer.Promptness
import ServiceKit.Proofs.Transfer.FirstFault
import ServiceKit.Proofs.Logging.Changes
import ServiceKit.Proofs.Logging.Order
import ServiceKit.Proofs.Logging.Held
import ServiceKit.Proofs.Logging.RuleText
import ServiceKit.Proofs.Logging.Effect
import ServiceKit.Proofs.Construction.Cache
import ServiceKit.Proofs.Construction.Races
import ServiceKit.Proofs.Construction.Accounts
import ServiceKit.Proofs.Transfer.Honest
import ServiceKit.Proofs.Transfer.HonestSkips
import ServiceKit.Proofs.Construction.Targets
import ServiceKit.Proofs.Channel.LastWriter
import ServiceKit.Proofs.Logging.LastRule
import ServiceKit.Proofs.Command.WriteThenRead
import ServiceKit.Proofs.Host.RoundRobin
import ServiceKit.Proofs.Transfer.WithinRange
import ServiceKit.Proofs.Command.Refusals
import ServiceKit.Proofs.Settings.Reading
import ServiceKit.Proofs.Transfer.SkipTurns
import ServiceKit.Proofs.Command.Ranges
import ServiceKit.Proofs.Command.Counting
import ServiceKit.Proofs.Construction.Queue
import ServiceKit.Proofs.Construction.Matching
import ServiceKit.Proofs.Construction.Bodies
import ServiceKit.Proofs.Construction.Declarations
import ServiceKit.Proofs.Logging.RuleList
import ServiceKit.Proofs.Construction.Naming
import ServiceKit.Proofs.Construction.Workshop
import ServiceKit.Proofs.Closing.Guards
import ServiceKit.Proofs.Closing.Lists
import ServiceKit.Proofs.Host.FirstMatch
import ServiceKit.Proofs.Transfer.Reports
import ServiceKit.Proofs.Fault.Conversions
import ServiceKit.Proofs.Host.Ranking
import ServiceKit.Proofs.Transfer.SingleSkips
import ServiceKit.Proofs.Construction.SignatureText
