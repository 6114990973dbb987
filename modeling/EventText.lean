import EventText.CommandLine.Arguments
import EventText.CommandLine.Folder
import EventText.CommandLine.Report
import EventText.CommandLine.Run
import EventText.Config.Yaml
import EventText.Main
import EventText.Resolver.Title
import EventText.Time.ZoneText
import EventText.Proofs.Template.Cut
import EventText.Proofs.Template.Recognition
import EventText.Proofs.Draw.Course
import EventText.Proofs.Template.Splice
import EventText.Proofs.Template.Rewriting
import EventText.Proofs.Template.Weaving
import EventText.Proofs.Resolver.Passes
import EventText.Proofs.Resolver.Answers
import EventText.Proofs.Resolver.Walk
import EventText.Proofs.Resolver.LinkedPair
import EventText.Proofs.Catalog.Lookup
import EventText.Proofs.Resolver.Leftovers
import EventText.Proofs.Resolver.TitleValues
import EventText.Proofs.Food.Marking
import EventText.Proofs.Food.Placeholders
import EventText.Proofs.Resolver.FixedPoint
import EventText.Proofs.Resolver.Total
import EventText.Proofs.Time.Reach
import EventText.Proofs.Request.Ending
import EventText.Proofs.Bytes.Slice
import EventText.Proofs.Bytes.Spans
import EventText.Proofs.Request.Produced
import EventText.Proofs.Bytes.Marking
import EventText.Proofs.Bytes.Resolving
import EventText.Proofs.Time.Calendar
import EventText.Proofs.Event.Json
import EventText.Proofs.Time.Written
import EventText.Proofs.Event.RoundTrip
import EventText.Proofs.Yaml.Characters
import EventText.Proofs.Text.Runs
import EventText.Proofs.Yaml.Plain
import EventText.Proofs.Yaml.Quoted
import EventText.Proofs.Yaml.Block
import EventText.Proofs.Yaml.Items
import EventText.Proofs.Yaml.Entries
import EventText.Proofs.Yaml.Numbers
import EventText.Proofs.Yaml.Nodes
import EventText.Proofs.Config.RoundTrip
import EventText.Proofs.Template.Listed
import EventText.Proofs.Bytes.Weaving
import EventText.Proofs.Preset.Validation
import EventText.Proofs.Preset.Accepted
import EventText.Proofs.Resolver.Ahead
import EventText.Proofs.Resolver.Choosing
import EventText.Proofs.Food.Recasing
import EventText.Proofs.Text.AsciiCase
import EventText.Proofs.Food.Inserting
import EventText.Proofs.Text.WholeWord
import EventText.Proofs.Template.Composing
import EventText.Proofs.Template.Lines
import EventText.Proofs.Markup.Nesting
import EventText.Proofs.Preset.Rearranged
import EventText.Proofs.Resolver.Nesting
import EventText.Proofs.Catalog.Queries
import EventText.Proofs.Template.Shifting
import EventText.Proofs.Time.Minutes
import EventText.Proofs.Time.Changes
import EventText.Proofs.Time.Seasons
import EventText.Proofs.Time.Typed
import EventText.Proofs.Request.Start
