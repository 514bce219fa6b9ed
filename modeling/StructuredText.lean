import StructuredText.CommandLine.Help
import StructuredText.CommandLine.Invocation
import StructuredText.CommandLine.Run
import StructuredText.CommandLine.Switch
import StructuredText.CommandLine.Word
import StructuredText.Desktop.Application
import StructuredText.Desktop.Editor
import StructuredText.Desktop.Grid
import StructuredText.Desktop.Outline
import StructuredText.Desktop.Panel
import StructuredText.Desktop.PanelView
import StructuredText.Desktop.Widget
import StructuredText.Desktop.Window
import StructuredText.Desktop.WindowView
import StructuredText.Diagnostic
import StructuredText.Double
import StructuredText.Double.Shortest
import StructuredText.FileSystem
import StructuredText.Index
import StructuredText.Json.Fault
import StructuredText.Json.Options
import StructuredText.Json.Parser
import StructuredText.Json.Printer
import StructuredText.Json.Reformat
import StructuredText.Json.Sorting
import StructuredText.Json.Table
import StructuredText.Json.Tree
import StructuredText.Json.Value
import StructuredText.Main
import StructuredText.Proofs.CommandLine.Endings
import StructuredText.Proofs.CommandLine.Outcomes
import StructuredText.Proofs.Desktop.Coherence
import StructuredText.Proofs.Desktop.Editing
import StructuredText.Proofs.Desktop.Grids
import StructuredText.Proofs.Desktop.Outlines
import StructuredText.Proofs.Double.Nearest
import StructuredText.Proofs.Double.ReadBack
import StructuredText.Proofs.FileSystem.Locations
import StructuredText.Proofs.FileSystem.Writing
import StructuredText.Proofs.Json.Acceptance
import StructuredText.Proofs.Json.Beginnings
import StructuredText.Proofs.Json.CanonicalForm
import StructuredText.Proofs.Json.Characters
import StructuredText.Proofs.Json.Constants
import StructuredText.Proofs.Json.Containers
import StructuredText.Proofs.Json.EagerTree
import StructuredText.Proofs.Json.EntryPoints
import StructuredText.Proofs.Json.EscapedTexts
import StructuredText.Proofs.Json.Evaluation
import StructuredText.Proofs.Json.Failures
import StructuredText.Proofs.Json.FaultPlaces
import StructuredText.Proofs.Json.Grammar
import StructuredText.Proofs.Json.Indentation
import StructuredText.Proofs.Json.LazyTree
import StructuredText.Proofs.Json.LongIntegers
import StructuredText.Proofs.Json.Members
import StructuredText.Proofs.Json.MetValues
import StructuredText.Proofs.Json.Numbers
import StructuredText.Proofs.Json.OpenTrees
import StructuredText.Proofs.Json.Parts
import StructuredText.Proofs.Json.Passages
import StructuredText.Proofs.Json.PathIndependence
import StructuredText.Proofs.Json.ReadValues
import StructuredText.Proofs.Json.RoundTrip
import StructuredText.Proofs.Json.Scalars
import StructuredText.Proofs.Json.SortedTables
import StructuredText.Proofs.Json.Sorting
import StructuredText.Proofs.Json.Strings
import StructuredText.Proofs.Json.Summaries
import StructuredText.Proofs.Json.Surrogates
import StructuredText.Proofs.Json.TableTexts
import StructuredText.Proofs.Json.Tables
import StructuredText.Proofs.Json.TreeRequests
import StructuredText.Proofs.Json.Unreadable
import StructuredText.Proofs.Json.WellFormed
import StructuredText.Proofs.Json.WrittenNumbers
import StructuredText.Proofs.Json.WrittenStrings
import StructuredText.Proofs.Sql.Breaks
import StructuredText.Proofs.Sql.Comments
import StructuredText.Proofs.Sql.Groups
import StructuredText.Proofs.Sql.Literals
import StructuredText.Proofs.Sql.Merging
import StructuredText.Proofs.Sql.NestedGroups
import StructuredText.Proofs.Sql.Passes
import StructuredText.Proofs.Sql.Settling
import StructuredText.Proofs.Sql.Spacing
import StructuredText.Proofs.Text.Digits
import StructuredText.Proofs.Text.Encoding
import StructuredText.Proofs.Text.Lines
import StructuredText.Proofs.Text.Trimming
import StructuredText.Proofs.Xml.CharacterData
import StructuredText.Proofs.Xml.Following
import StructuredText.Proofs.Xml.FollowingDocuments
import StructuredText.Proofs.Xml.FollowingElements
import StructuredText.Proofs.Xml.FollowingEntities
import StructuredText.Proofs.Xml.FollowingNames
import StructuredText.Proofs.Xml.FollowingSections
import StructuredText.Proofs.Xml.FollowingTypes
import StructuredText.Proofs.Xml.Gaps
import StructuredText.Proofs.Xml.Keeping
import StructuredText.Proofs.Xml.LegalTags
import StructuredText.Proofs.Xml.Nesting
import StructuredText.Proofs.Xml.NormalForm
import StructuredText.Proofs.Xml.ReadSections
import StructuredText.Proofs.Xml.Regaps
import StructuredText.Proofs.Xml.ReindentTwice
import StructuredText.Proofs.Xml.Relaying
import StructuredText.Proofs.Xml.Runs
import StructuredText.Proofs.Xml.SectionContents
import StructuredText.Proofs.Xml.SectionEnds
import StructuredText.Proofs.Xml.Sections
import StructuredText.Proofs.Xml.SpacedLines
import StructuredText.Proofs.Xml.WrittenTags
import StructuredText.Release
import StructuredText.Samples
import StructuredText.Sql.Format
import StructuredText.Sql.Layout
import StructuredText.Sql.Lines
import StructuredText.Sql.Parentheses
import StructuredText.Text.Blank
import StructuredText.Text.CodePoint
import StructuredText.Text.Gbk
import StructuredText.Text.Integer
import StructuredText.Text.Lines
import StructuredText.Text.Numeral
import StructuredText.Text.Repeat
import StructuredText.Text.Shown
import StructuredText.Text.Upper
import StructuredText.Text.Utf8
import StructuredText.Text.Visible
import StructuredText.Text.Word
import StructuredText.Xml.Character
import StructuredText.Xml.Document
import StructuredText.Xml.DocumentType
import StructuredText.Xml.Element
import StructuredText.Xml.Fault
import StructuredText.Xml.Journal
import StructuredText.Xml.Name
import StructuredText.Xml.Reference
import StructuredText.Xml.Reindent
import StructuredText.Xml.Scan
import StructuredText.Xml.Section
import StructuredText.Xml.TagLine
import StructuredText.Xml.UriReference
