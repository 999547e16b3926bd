import Inspector.Config.Document
import Inspector.Expr.Evaluate
import Inspector.Held
import Inspector.Logging
import Inspector.Value.Content
import Inspector.World
import Inspector.Proofs.Expr.Order
import Inspector.Proofs.Expr.Recompile
import Inspector.Proofs.Expr.Safe
import Inspector.Proofs.Held.Transparent
import Inspector.Proofs.System.Exclusion
import Inspector.Proofs.System.Ready
import Inspector.Proofs.System.Schedule
import Inspector.Proofs.System.Outcomes
import Inspector.Proofs.Expr.Provenance
import Inspector.Proofs.Expr.Interpret
import Inspector.Proofs.Expr.Operands
import Inspector.Proofs.Word.Residue
import Inspector.Proofs.Expr.Division
import Inspector.Proofs.Expr.Wrapping
import Inspector.Proofs.Expr.Comparison
import Inspector.Proofs.Expr.Shifting
import Inspector.Proofs.Expr.Conditional
import Inspector.Proofs.Computation.Texts
import Inspector.Proofs.Held.Texts
import Inspector.Proofs.Computation.Raises
import Inspector.Proofs.Computation.Equality
import Inspector.Proofs.Expr.Diagnosis
import Inspector.Proofs.System.Account
import Inspector.Proofs.Value.Integer
import Inspector.Proofs.Expr.Pruned
import Inspector.Proofs.Config.File
