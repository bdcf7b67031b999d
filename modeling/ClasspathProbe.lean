import ClasspathProbe.Artifact
import ClasspathProbe.BuildReport
import ClasspathProbe.Calendar
import ClasspathProbe.CommandLine
import ClasspathProbe.CommandLine.Options
import ClasspathProbe.Config
import ClasspathProbe.Display
import ClasspathProbe.Display.Markup
import ClasspathProbe.Display.Plain
import ClasspathProbe.EnvFile
import ClasspathProbe.Failure
import ClasspathProbe.FileTree
import ClasspathProbe.Invocation
import ClasspathProbe.Json
import ClasspathProbe.Json.Reader
import ClasspathProbe.Json.Writer
import ClasspathProbe.Log.Layout
import ClasspathProbe.Log.Level
import ClasspathProbe.Log.Setup
import ClasspathProbe.Machine
import ClasspathProbe.Main
import ClasspathProbe.Marker
import ClasspathProbe.Number.Nearest
import ClasspathProbe.Number.Places
import ClasspathProbe.Number.Reading
import ClasspathProbe.Number.Shortest
import ClasspathProbe.Path
import ClasspathProbe.Probe
import ClasspathProbe.Probe.Materialize
import ClasspathProbe.Program
import ClasspathProbe.Program.Image
import ClasspathProbe.Proofs.Artifact
import ClasspathProbe.Proofs.Artifact.Rebuilt
import ClasspathProbe.Proofs.BuildFile
import ClasspathProbe.Proofs.BuildReport
import ClasspathProbe.Proofs.CommandLine.Agreement
import ClasspathProbe.Proofs.CommandLine.ConfigFile
import ClasspathProbe.Proofs.CommandLine.Run
import ClasspathProbe.Proofs.CommandLine.Verbose
import ClasspathProbe.Proofs.CommandLine.Words
import ClasspathProbe.Proofs.Config
import ClasspathProbe.Proofs.Config.Contract
import ClasspathProbe.Proofs.Config.Session
import ClasspathProbe.Proofs.Display
import ClasspathProbe.Proofs.Display.Arrangement
import ClasspathProbe.Proofs.FileTree.Absolute
import ClasspathProbe.Proofs.FileTree.Longer
import ClasspathProbe.Proofs.FileTree.NewFile
import ClasspathProbe.Proofs.FileTree.Outline
import ClasspathProbe.Proofs.FileTree.Sight
import ClasspathProbe.Proofs.FileTree.Spelling
import ClasspathProbe.Proofs.FileTree.Written
import ClasspathProbe.Proofs.Json.Grammar
import ClasspathProbe.Proofs.Json.Writer
import ClasspathProbe.Proofs.LineEnds
import ClasspathProbe.Proofs.Log.Layout
import ClasspathProbe.Proofs.Log.Records
import ClasspathProbe.Proofs.Log.Repeated
import ClasspathProbe.Proofs.Log.Setup
import ClasspathProbe.Proofs.Log.Verbose
import ClasspathProbe.Proofs.Marker.Bytes
import ClasspathProbe.Proofs.Marker.Grammar
import ClasspathProbe.Proofs.Marker.Join
import ClasspathProbe.Proofs.Marker.Line
import ClasspathProbe.Proofs.Marker.Output
import ClasspathProbe.Proofs.Path
import ClasspathProbe.Proofs.Probe.Bracket
import ClasspathProbe.Proofs.Probe.Failed
import ClasspathProbe.Proofs.Probe.Materialize
import ClasspathProbe.Proofs.Probe.Pending
import ClasspathProbe.Proofs.Probe.Print
import ClasspathProbe.Proofs.Probe.Script
import ClasspathProbe.Proofs.Resolver.Alike
import ClasspathProbe.Proofs.Resolver.Course
import ClasspathProbe.Proofs.Resolver.Lifetime
import ClasspathProbe.Proofs.Resolver.Parallel
import ClasspathProbe.Proofs.Resolver.Session
import ClasspathProbe.Proofs.Resolver.Steps
import ClasspathProbe.Proofs.Resolver.Version
import ClasspathProbe.Proofs.Settings.Failures
import ClasspathProbe.Proofs.Settings.Layers
import ClasspathProbe.Proofs.Settings.Level
import ClasspathProbe.Proofs.Settings.Loading
import ClasspathProbe.Proofs.Settings.Reading
import ClasspathProbe.Proofs.Settings.Remade
import ClasspathProbe.Proofs.Settings.Surroundings
import ClasspathProbe.Proofs.Settings.Validation
import ClasspathProbe.Proofs.Text.Blank
import ClasspathProbe.Proofs.Text.Cut
import ClasspathProbe.Proofs.Text.Lines
import ClasspathProbe.Proofs.Text.Order
import ClasspathProbe.Proofs.Text.Pattern
import ClasspathProbe.Proofs.Text.Returns
import ClasspathProbe.Proofs.Text.Utf8
import ClasspathProbe.Proofs.World.Action
import ClasspathProbe.Proofs.World.Agreement
import ClasspathProbe.Proofs.World.Alike
import ClasspathProbe.Proofs.World.Log
import ClasspathProbe.Proofs.World.Quieter
import ClasspathProbe.Proofs.World.TempDirectory
import ClasspathProbe.Proofs.Wrapper.Ancestors
import ClasspathProbe.Proofs.Wrapper.Located
import ClasspathProbe.Proofs.Wrapper.Nearest
import ClasspathProbe.Refusal
import ClasspathProbe.Resolver
import ClasspathProbe.Settings
import ClasspathProbe.Settings.Field
import ClasspathProbe.Settings.Lookup
import ClasspathProbe.Settings.Sources
import ClasspathProbe.Shell.Argument
import ClasspathProbe.Shell.Arithmetic
import ClasspathProbe.Shell.Builtin
import ClasspathProbe.Shell.Channel
import ClasspathProbe.Shell.Command
import ClasspathProbe.Shell.Condition
import ClasspathProbe.Shell.Format
import ClasspathProbe.Shell.Glyph
import ClasspathProbe.Shell.Limit
import ClasspathProbe.Shell.Pattern
import ClasspathProbe.Shell.Process
import ClasspathProbe.Shell.Real
import ClasspathProbe.Shell.Run
import ClasspathProbe.Shell.Scope
import ClasspathProbe.Shell.Script
import ClasspathProbe.Shell.Search
import ClasspathProbe.Shell.Signal
import ClasspathProbe.Shell.State
import ClasspathProbe.Shell.Tilde
import ClasspathProbe.Shell.Token
import ClasspathProbe.Shell.Trim
import ClasspathProbe.Text
import ClasspathProbe.Text.Digit
import ClasspathProbe.Text.Encoding
import ClasspathProbe.Text.Lowercase
import ClasspathProbe.Text.Pattern
import ClasspathProbe.Text.Printable
import ClasspathProbe.Text.Quoted
import ClasspathProbe.Text.Raw
import ClasspathProbe.Text.Uppercase
import ClasspathProbe.Text.Utf8
import ClasspathProbe.Text.Word
import ClasspathProbe.Value
import ClasspathProbe.World
import ClasspathProbe.World.Edit
import ClasspathProbe.World.TempDirectory
import ClasspathProbe.Wrapper
import ClasspathProbe.Yaml.Document
import ClasspathProbe.Yaml.Node
import ClasspathProbe.Yaml.Scalar
import ClasspathProbe.Yaml.Token
