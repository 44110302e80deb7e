import FilterQuery.Filter.Keys
import FilterQuery.Filter.Render
import FilterQuery.SyntaxError.Cause
import FilterQuery.SyntaxError.Context
import FilterQuery.Text.Quoted
import FilterQuery.Lexeme.Scan
import FilterQuery.Log
import FilterQuery.Settings.Basic
import FilterQuery.Reader.Leaf
import FilterQuery.Reader.Expression
import FilterQuery.Cursor.Basic
import FilterQuery.Cursor.Trip
import FilterQuery.Reader.Parse
import FilterQuery.Workbench
import FilterQuery.Json.Filter
import FilterQuery.Settings.Json
import FilterQuery.Toml.Literal
import FilterQuery.Toml.Text
import FilterQuery.Toml.Statement
import FilterQuery.Settings.Toml
import FilterQuery.Session
import FilterQuery.Proofs.Runs
import FilterQuery.Proofs.Grammar
import FilterQuery.Proofs.Operand
import FilterQuery.Proofs.Descent
import FilterQuery.Proofs.Acceptance
import FilterQuery.Proofs.Faults
import FilterQuery.Proofs.DepthLimit
import FilterQuery.Proofs.Rendering
import FilterQuery.Proofs.RoundTrip
import FilterQuery.Proofs.Following
import FilterQuery.Proofs.Completion
import FilterQuery.Proofs.Persistence
import FilterQuery.Proofs.Threshold
import FilterQuery.Proofs.Joining
import FilterQuery.Proofs.Chains
import FilterQuery.Proofs.Grouping
import FilterQuery.Proofs.Spacing
import FilterQuery.Proofs.Substitution
import FilterQuery.Proofs.Discarding
import FilterQuery.Proofs.Chronicle
import FilterQuery.Proofs.Assignments
import FilterQuery.Proofs.Lookup
import FilterQuery.Proofs.Presentation
import FilterQuery.Proofs.StoredSettings
import FilterQuery.Proofs.EditScripts
import FilterQuery.Proofs.NearestKey
import FilterQuery.Proofs.Beginnings
import FilterQuery.Proofs.Marker
import FilterQuery.Proofs.Requoting
import FilterQuery.Proofs.Walking
import FilterQuery.Proofs.Places
import FilterQuery.Proofs.InPlace
import FilterQuery.Proofs.Faithful
import FilterQuery.Proofs.Orderly
import FilterQuery.Proofs.Whereabouts
import FilterQuery.Proofs.Counting
import FilterQuery.Proofs.Deciding
import FilterQuery.Proofs.Onward
import FilterQuery.Proofs.Unfinished
import FilterQuery.Proofs.Advancing
