import DataDiagram.Datum
/-!
# Data

Facts about plain values that several theories need.
-/

namespace DataDiagram.Datum

theorem same_str (s t : String) : (str s).same (str t) = (s == t) := by
  rw [same]

variable {d : Datum} {n : Int}

theorem number?_of_int? (h : d.int? = some n) :
    d.number? = some (.int n) := by
  cases d <;> simp_all [int?, number?]

theorem same_self_of_int? (h : d.int? = some n) : d.same d = true := by
  have hnumber : d.sameNumber d = true := by
    rw [sameNumber, number?_of_int? h]
    simp [Number.equal, Number.compare?]
  cases d with
  | bool b | int m =>
    rw [same] <;> first | exact hnumber | simp
  | _ => simp [int?] at h

end DataDiagram.Datum
