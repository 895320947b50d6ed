import LootSieve.Engine
import LootSieve.Feed.Delivery
import LootSieve.Feed.Detector
import LootSieve.Feed.Fragment
import LootSieve.Feed.Source
import LootSieve.Item.Basic
import LootSieve.Item.ItemType
import LootSieve.Item.NameError
import LootSieve.Item.Rarity
import LootSieve.Json
import LootSieve.Lexicon.Basic
import LootSieve.Lexicon.Folder
import LootSieve.Lexicon.Naming
import LootSieve.Lexicon.Table
import LootSieve.Policy
import LootSieve.Profile.Basic
import LootSieve.Profile.Draft
import LootSieve.Profile.Fault
import LootSieve.Profile.Validation
import LootSieve.Proofs.Engine.EndToEnd
import LootSieve.Proofs.Engine.Operation
import LootSieve.Proofs.Engine.Sharing
import LootSieve.Proofs.Engine.Snapshots
import LootSieve.Proofs.Fallible
import LootSieve.Proofs.Feed.ByteLines
import LootSieve.Proofs.Feed.ClosingHints
import LootSieve.Proofs.Feed.Interleaving
import LootSieve.Proofs.Feed.Normalization
import LootSieve.Proofs.Feed.Pipeline
import LootSieve.Proofs.Feed.ReadErrors
import LootSieve.Proofs.Feed.Segmentation
import LootSieve.Proofs.Lexicon.LongestAspect
import LootSieve.Proofs.Lexicon.NearestAffix
import LootSieve.Proofs.Lexicon.SpacedTitles
import LootSieve.Proofs.Optional
import LootSieve.Proofs.Profile.Acceptance
import LootSieve.Proofs.Profile.ContentFaults
import LootSieve.Proofs.Profile.GrowingLexicon
import LootSieve.Proofs.Profile.LongForm
import LootSieve.Proofs.Profile.Respelling
import LootSieve.Proofs.Profile.Spellings
import LootSieve.Proofs.Text.Interruption
import LootSieve.Proofs.Text.Parts
import LootSieve.Proofs.Text.Replacement
import LootSieve.Proofs.Text.Scanning
import LootSieve.Proofs.Text.Spelling
import LootSieve.Proofs.Text.Trimming
import LootSieve.Proofs.Text.WholeNumber
import LootSieve.Proofs.Tooltip.AffixDecoration
import LootSieve.Proofs.Tooltip.AffixRoundTrip
import LootSieve.Proofs.Tooltip.Arrangements
import LootSieve.Proofs.Tooltip.AspectLine
import LootSieve.Proofs.Tooltip.DecoratedHeading
import LootSieve.Proofs.Tooltip.GearHeading
import LootSieve.Proofs.Tooltip.GearLayout
import LootSieve.Proofs.Tooltip.GearReading
import LootSieve.Proofs.Tooltip.GearTooltip
import LootSieve.Proofs.Tooltip.IrrelevantLines
import LootSieve.Proofs.Tooltip.LineCleaning
import LootSieve.Proofs.Tooltip.NearestNumber
import LootSieve.Proofs.Tooltip.Numerals
import LootSieve.Proofs.Tooltip.Positions
import LootSieve.Proofs.Tooltip.Provenance
import LootSieve.Proofs.Tooltip.RangePairing
import LootSieve.Proofs.Tooltip.ReadFaults
import LootSieve.Proofs.Tooltip.Recovery
import LootSieve.Proofs.Tooltip.ShownLine
import LootSieve.Proofs.Tooltip.StrippedLine
import LootSieve.Proofs.Verdict.AffixOrder
import LootSieve.Proofs.Verdict.Agreement
import LootSieve.Proofs.Verdict.BetterRoll
import LootSieve.Proofs.Verdict.Independence
import LootSieve.Proofs.Verdict.Leniency
import LootSieve.Proofs.Verdict.MythicOnly
import LootSieve.Proofs.Verdict.Percentiles
import LootSieve.Proofs.Verdict.PoolCounting
import LootSieve.Proofs.Verdict.SigilLists
import LootSieve.Proofs.Verdict.UniqueFlags
import LootSieve.Proofs.Verdict.UnlockedLook
import LootSieve.Proofs.Yaml.EntryRecords
import LootSieve.Proofs.Yaml.Places
import LootSieve.Settings
import LootSieve.Text.Alphabetic
import LootSieve.Text.Blank
import LootSieve.Text.CodeRun
import LootSieve.Text.Distance
import LootSieve.Text.LetterCase
import LootSieve.Text.Lowercase
import LootSieve.Text.Numeral
import LootSieve.Text.Search
import LootSieve.Text.Utf8
import LootSieve.Tooltip.Arrangement
import LootSieve.Tooltip.Cleaning
import LootSieve.Tooltip.Decoding
import LootSieve.Tooltip.Error
import LootSieve.Tooltip.Heading
import LootSieve.Tooltip.Layout
import LootSieve.Tooltip.Line
import LootSieve.Tooltip.Reading
import LootSieve.Verdict.Basic
import LootSieve.Verdict.Decision
import LootSieve.Verdict.Fallback
import LootSieve.Verdict.Gear
import LootSieve.Verdict.Percent
import LootSieve.Verdict.Pools
import LootSieve.Verdict.Sigil
import LootSieve.Verdict.Tribute
import LootSieve.Verdict.Unique
import LootSieve.Yaml.Node
import LootSieve.Yaml.Scalar
import LootSieve.Yaml.Shape
import LootSieve.Yaml.Spot
import LootSieve.Yaml.Token
import LootSieve.Yaml.Value
