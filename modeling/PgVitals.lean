import PgVitals.Text.Blank
import PgVitals.Text.Cut
import PgVitals.Text.Quoted
import PgVitals.Text.Utf8
import PgVitals.Text.WordChar
import PgVitals.Decimal.Layout
import PgVitals.Decimal.Reader
import PgVitals.Row
import PgVitals.ServerVersion
import PgVitals.Settings
import PgVitals.Descriptor.Basic
import PgVitals.Descriptor.Environment
import PgVitals.Metric.Rendering
import PgVitals.Collector.Selection
import PgVitals.Cancellation
import PgVitals.Catalogue
import PgVitals.CommandLine.Reader
import PgVitals.Server.Rig
import PgVitals.Target
import PgVitals.Server.Unreachable
import PgVitals.Collector.Builtin
import PgVitals.Collector.Scripted
import PgVitals.Scrape.Run
import PgVitals.Publication
import PgVitals.Daemon
import PgVitals.Main
import PgVitals.Proofs.Text.Cut
import PgVitals.Proofs.Text.Trim
import PgVitals.Proofs.Descriptor.Values
import PgVitals.Proofs.Descriptor.Pairs
import PgVitals.Proofs.Descriptor.Form
import PgVitals.Proofs.Descriptor.Retarget
import PgVitals.Proofs.Steps
import PgVitals.Proofs.Server.Audit
import PgVitals.Proofs.Server.Directed
import PgVitals.Proofs.Target.Sessions
import PgVitals.Proofs.Target.Life
import PgVitals.Proofs.Target.Opening
import PgVitals.Proofs.Collector.Visits
import PgVitals.Proofs.Text.ByteOrder
import PgVitals.Proofs.Collector.Tour
import PgVitals.Proofs.Collector.Known
import PgVitals.Proofs.Lockstep
import PgVitals.Proofs.Server.Simulation
import PgVitals.Proofs.Server.Plain
import PgVitals.Proofs.Server.Steady
import PgVitals.Proofs.Collector.Report
import PgVitals.Proofs.Collector.Anatomy
import PgVitals.Proofs.Collector.Builtin
import PgVitals.Proofs.Collector.Series
import PgVitals.Proofs.Scrape.Release
import PgVitals.Proofs.Text.Utf8
import PgVitals.Proofs.Descriptor.Percent
import PgVitals.Proofs.Descriptor.Uri
import PgVitals.Proofs.Scrape.Isolation
import PgVitals.Proofs.Scrape.GivingUp
import PgVitals.Proofs.Scrape.Discipline
import PgVitals.Proofs.Scrape.Independence
import PgVitals.Proofs.Scrape.Series
import PgVitals.Proofs.Metric.Escapes
import PgVitals.Proofs.Metric.Families
import PgVitals.Proofs.Metric.Values
import PgVitals.Proofs.Metric.Lines
import PgVitals.Proofs.Metric.Reading
import PgVitals.Proofs.Cancellation.Links
import PgVitals.Proofs.Cancellation.Changes
import PgVitals.Proofs.Cancellation.Cascade
import PgVitals.Proofs.Cancellation.Tally
import PgVitals.Proofs.Cancellation.Usage
import PgVitals.Proofs.Cancellation.HooksOnce
import PgVitals.Proofs.Descriptor.Printed
import PgVitals.Proofs.Descriptor.Redacted
import PgVitals.Proofs.Descriptor.Environment
import PgVitals.Proofs.Text.Quoted
import PgVitals.Proofs.Descriptor.Refused
import PgVitals.Proofs.Descriptor.Client
import PgVitals.Proofs.CommandLine.Reader
import PgVitals.Proofs.Server.Client
import PgVitals.Proofs.Daemon.Secrecy
import PgVitals.Proofs.Collector.Selection
import PgVitals.Proofs.Collector.Draws
import PgVitals.Proofs.Collector.Sample
import PgVitals.Proofs.Collector.Excluded
import PgVitals.Proofs.Cancellation.Endings
import PgVitals.Proofs.Server.Attentive
import PgVitals.Proofs.Server.Heeding
import PgVitals.Proofs.Target.Heeding
import PgVitals.Proofs.Collector.Heeding
import PgVitals.Proofs.Scrape.Cancelled
import PgVitals.Proofs.Descriptor.Grammar
import PgVitals.Proofs.Descriptor.Places
import PgVitals.Proofs.Descriptor.Acceptance
import PgVitals.Proofs.Descriptor.Triplets
import PgVitals.Proofs.Metric.Grouping
import PgVitals.Proofs.Decimal.Unsigned
import PgVitals.Proofs.ServerVersion
import PgVitals.Proofs.Target.Undone
import PgVitals.Proofs.Collector.Atomic
import PgVitals.Proofs.Dictionary
import PgVitals.Proofs.CommandLine.Attached
import PgVitals.Proofs.Collector.Superusers
import PgVitals.Proofs.Catalogue
import PgVitals.Proofs.CommandLine.Switches
import PgVitals.Proofs.Daemon.Deadline
import PgVitals.Proofs.FileTree
import PgVitals.Proofs.Publication
import PgVitals.Proofs.NameList
