import RuleCalendar.Action
import RuleCalendar.Command.App
import RuleCalendar.Command.Argument
import RuleCalendar.Command.Calendar
import RuleCalendar.Command.Line
import RuleCalendar.Command.Registry
import RuleCalendar.Date.Basic
import RuleCalendar.Date.Lemmas
import RuleCalendar.Date.Moment
import RuleCalendar.Date.Names
import RuleCalendar.Date.Timestamp
import RuleCalendar.Date.WorkingDay
import RuleCalendar.Envelope
import RuleCalendar.Event
import RuleCalendar.Export.Csv
import RuleCalendar.Export.Grid
import RuleCalendar.Export.ICalendar
import RuleCalendar.Export.Request
import RuleCalendar.Failure
import RuleCalendar.Files.Document
import RuleCalendar.Files.Home
import RuleCalendar.Files.Path
import RuleCalendar.Files.Tree
import RuleCalendar.Log
import RuleCalendar.Main
import RuleCalendar.Number.Double
import RuleCalendar.Number.Shortest
import RuleCalendar.Pattern
import RuleCalendar.Report.Table
import RuleCalendar.Report.Writer
import RuleCalendar.Rule.Basic
import RuleCalendar.Rule.Dates
import RuleCalendar.Rule.Description
import RuleCalendar.Rule.Reading
import RuleCalendar.Rule.SingleDate
import RuleCalendar.Rule.Table
import RuleCalendar.Rule.Vocabulary
import RuleCalendar.RuleLine
import RuleCalendar.RulesSource
import RuleCalendar.Sample
import RuleCalendar.Schedule
import RuleCalendar.Settings.Basic
import RuleCalendar.Settings.Lookup
import RuleCalendar.Text.Blank
import RuleCalendar.Text.CaseTable
import RuleCalendar.Text.CodeRange
import RuleCalendar.Text.Digit
import RuleCalendar.Text.Integer
import RuleCalendar.Text.Layout
import RuleCalendar.Text.LowerCase
import RuleCalendar.Text.PrintableTable
import RuleCalendar.Text.Quoted
import RuleCalendar.Text.Spelling
import RuleCalendar.Text.Split
import RuleCalendar.Text.Template
import RuleCalendar.Text.Utf8
import RuleCalendar.Text.Word
import RuleCalendar.Text.WordTable
import RuleCalendar.Value.Basic
import RuleCalendar.Value.Choice
import RuleCalendar.Value.Json
import RuleCalendar.Value.Show
import RuleCalendar.Yaml.Document
import RuleCalendar.Yaml.Fault
import RuleCalendar.Yaml.Node.Basic
import RuleCalendar.Yaml.Node.Meaning
import RuleCalendar.Yaml.Node.Reading
import RuleCalendar.Yaml.Numeral
import RuleCalendar.Yaml.Plain
import RuleCalendar.Yaml.Source
import RuleCalendar.Yaml.Spelling
import RuleCalendar.Yaml.Time
import RuleCalendar.Yaml.Token.Basic
import RuleCalendar.Yaml.Token.Name
import RuleCalendar.Yaml.Token.Reading
import RuleCalendar.Yaml.Writer
import RuleCalendar.YearCalendar
import RuleCalendar.Proofs.Date.Ascending
import RuleCalendar.Proofs.Date.Month
import RuleCalendar.Proofs.Rule.Anchor
import RuleCalendar.Proofs.Rule.Dates
import RuleCalendar.Proofs.Schedule.Identifier
import RuleCalendar.Proofs.Schedule.Order
import RuleCalendar.Proofs.Schedule.Discovery
import RuleCalendar.Proofs.Schedule.Independence
import RuleCalendar.Proofs.Export.Uid
import RuleCalendar.Proofs.Schedule.Uniqueness
import RuleCalendar.Proofs.Rule.WeekendClause
import RuleCalendar.Proofs.Rule.WellFormed
import RuleCalendar.Proofs.Schedule.Recurring
import RuleCalendar.Proofs.Schedule.Search
import RuleCalendar.Proofs.Schedule.Unknown
import RuleCalendar.Proofs.Schedule.Edge
import RuleCalendar.Proofs.Schedule.Ties
import RuleCalendar.Proofs.Schedule.Nominal
import RuleCalendar.Proofs.Schedule.WrittenDate
import RuleCalendar.Proofs.Export.Csv
import RuleCalendar.Proofs.Export.Calendar
import RuleCalendar.Proofs.Schedule.DayGroups
import RuleCalendar.Proofs.Action
import RuleCalendar.Proofs.Envelope
import RuleCalendar.Proofs.YearCalendar
import RuleCalendar.Proofs.Export.LineEnds
import RuleCalendar.Proofs.Text.Utf8
import RuleCalendar.Proofs.Files.Tree
import RuleCalendar.Proofs.Export.Request
import RuleCalendar.Proofs.Settings.Load
import RuleCalendar.Proofs.Rule.Phrase
import RuleCalendar.Proofs.Rule.Count
import RuleCalendar.Proofs.Rule.OrdinalDay
import RuleCalendar.Proofs.Rule.Joined
import RuleCalendar.Proofs.Rule.Shadowed
import RuleCalendar.Proofs.Rule.Respelling
import RuleCalendar.Proofs.Schedule.Foreign
import RuleCalendar.Proofs.Date.Nearest
import RuleCalendar.Proofs.Date.Weeks
import RuleCalendar.Proofs.Text.Replace
import RuleCalendar.Proofs.Text.Layout
import RuleCalendar.Proofs.Export.Folding
import RuleCalendar.Proofs.Export.TextValue
import RuleCalendar.Proofs.Export.Grid
import RuleCalendar.Proofs.Export.MonthView
import RuleCalendar.Proofs.RuleLine.Lines
import RuleCalendar.Proofs.RuleLine.Printed
import RuleCalendar.Proofs.Command.Registry
import RuleCalendar.Proofs.Settings.Overlay
import RuleCalendar.Proofs.RulesSource
import RuleCalendar.Proofs.Rule.Names
import RuleCalendar.Proofs.Report.Table
import RuleCalendar.Proofs.Value.Choice
