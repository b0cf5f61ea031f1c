import Liquid.Main
import Liquid.Proofs.Condition.Integers
import Liquid.Proofs.Condition.Spelling
import Liquid.Proofs.Context.Nesting
import Liquid.Proofs.Cycle.Keys
import Liquid.Proofs.Document.Derivation
import Liquid.Proofs.Engine.Concatenation
import Liquid.Proofs.Engine.Failure
import Liquid.Proofs.Engine.Limit
import Liquid.Proofs.Engine.Partials
import Liquid.Proofs.Engine.Verbatim
import Liquid.Proofs.Expression.Strings
import Liquid.Proofs.FileSystem.Roots
import Liquid.Proofs.Filter.Arithmetic
import Liquid.Proofs.Filter.Date
import Liquid.Proofs.Filter.Escaping
import Liquid.Proofs.Filter.Slice
import Liquid.Proofs.Filter.Splitting
import Liquid.Proofs.Filter.Stable
import Liquid.Proofs.Filter.Stripping
import Liquid.Proofs.Host.Extension
import Liquid.Proofs.Loop.Continuation
import Liquid.Proofs.Loop.Expansion
import Liquid.Proofs.Loop.Grid
import Liquid.Proofs.Loop.Header
import Liquid.Proofs.Pipeline.Spelling
import Liquid.Proofs.Render.Assignment
import Liquid.Proofs.Render.Branches
import Liquid.Proofs.Render.Independence
import Liquid.Proofs.Render.ReadBack
import Liquid.Proofs.Render.Success
import Liquid.Proofs.Render.Wrappers
import Liquid.Proofs.Settings.Layers
import Liquid.Proofs.Text.Unquoted
import Liquid.Proofs.Token.Canonical
import Liquid.Proofs.Value.Json
