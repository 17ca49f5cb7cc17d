import SubordinateIds.Main
import SubordinateIds.FileTree
import SubordinateIds.Shell.Launch
import SubordinateIds.Proofs.Acts
import SubordinateIds.Proofs.Answers
import SubordinateIds.Proofs.Block
import SubordinateIds.Proofs.Placement
import SubordinateIds.Proofs.Placement.Capacity
import SubordinateIds.Proofs.Placement.Period
import SubordinateIds.Proofs.Placement.Watched
import SubordinateIds.Proofs.Assignment.Courses
import SubordinateIds.Proofs.Assignment.Runs
import SubordinateIds.Proofs.Assignment.Starts
import SubordinateIds.Proofs.LoginName
import SubordinateIds.Proofs.LoginName.Grammar
import SubordinateIds.Proofs.Assignment.Separation
import SubordinateIds.Proofs.Assignment.Collision
import SubordinateIds.Proofs.Assignment.Protocol
import SubordinateIds.Proofs.Configuration.Line
import SubordinateIds.Proofs.Text.Runs
import SubordinateIds.Proofs.Octets
import SubordinateIds.Proofs.Configuration.Words
import SubordinateIds.Proofs.Path.Validity
import SubordinateIds.Proofs.Path.Child
import SubordinateIds.Proofs.Configuration.Gathering
import SubordinateIds.Proofs.Configuration.Merge
import SubordinateIds.Proofs.Assignment.Indifference
import SubordinateIds.Proofs.Configuration.Directory
import SubordinateIds.Proofs.Assignment.Rehearsal
import SubordinateIds.Proofs.Assignment.Arguments
import SubordinateIds.Proofs.Assignment.Wrapping
import SubordinateIds.Proofs.Assignment.Arithmetic
import SubordinateIds.Proofs.Assignment.Environment
import SubordinateIds.Proofs.Assignment.Verbosity
import SubordinateIds.Proofs.Catalogue
import SubordinateIds.Proofs.CommandLine.Conduct
import SubordinateIds.Proofs.Assignment.Congruence
import SubordinateIds.Proofs.Configuration.Confinement
import SubordinateIds.Proofs.Configuration.Listing
import SubordinateIds.Proofs.Configuration.Wholeness
import SubordinateIds.Proofs.Configuration.Problems
import SubordinateIds.Proofs.Configuration.Slots
import SubordinateIds.Proofs.Configuration.Rendering
import SubordinateIds.Proofs.CommandLine.Dump
import SubordinateIds.Proofs.Text.Json
import SubordinateIds.Proofs.Text.Lines
import SubordinateIds.Proofs.Journal.JsonLines
import SubordinateIds.Proofs.Configuration.Wording
import SubordinateIds.Proofs.Journal.TextLines
import SubordinateIds.Proofs.Catalogue.Filling
import SubordinateIds.Proofs.Configuration.Comments
import SubordinateIds.Proofs.Turns
import SubordinateIds.Proofs.Identity
import SubordinateIds.Proofs.FileTree.Walking
import SubordinateIds.Proofs.FileTree.Answers
import SubordinateIds.Proofs.Shell.Course
import SubordinateIds.Proofs.Shell.Commands
import SubordinateIds.Proofs.Shell.Programs
import SubordinateIds.Proofs.Shell.Runs
import SubordinateIds.Proofs.Shell.Launching
import SubordinateIds.Proofs.Shell.Patterns
import SubordinateIds.Proofs.Shell.Expressions
import SubordinateIds.Proofs.Shell.Formulas
import SubordinateIds.Proofs.Shell.Fractions
import SubordinateIds.Proofs.Shell.Words
import SubordinateIds.Proofs.Shell.Filters
import SubordinateIds.Proofs.Shell.Signals
import SubordinateIds.Proofs.Shell.Numbers
