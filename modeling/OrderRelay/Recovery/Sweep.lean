import OrderRelay.Bus.Assignment
import OrderRelay.Bus.PartitionMap

/-!
# Recovery sweeps

A sweep goes once over what a channel held when it began. As a partition is assigned, its last offset at
that moment closes the *window* of the partition, and the consumer goes back to the earliest retained
record. Records in the window are worked off; whatever comes later is left for another sweep. A partition
is *drained* once nothing of its window is left, and the sweep is complete once all its partitions are.

* `Window`, `Sweep`, `Admission`;
* `judge`, the verdict on a record: the first record past the window drains the partition;
* `settle`, after a record was worked off, and `observeLow`, after a look at what is still retained;
* `track`, `assigned`, `revoked`: how windows come and go;
* `isComplete`, `pending`, `drained`, `snapshots`: what can be seen of a sweep.
-/

namespace OrderRelay

/-- The part of a partition that belongs to a sweep: everything up to the offset `last`. -/
structure Window where
  last : Int
  drained : Bool
deriving DecidableEq, Repr

/-- A sweep over a channel. -/
structure Sweep where
  channel : String
  windows : PartitionMap Window

/-- The verdict on a record. -/
inductive Admission where
  /-- In the window: work it off. -/
  | process
  /-- The partition is done in this sweep. -/
  | drained
  /-- The partition has no window. -/
  | unassigned
deriving DecidableEq, Repr

/-- The name of a verdict. -/
def Admission.name : Admission → String
  | process => "process"
  | drained => "drained"
  | unassigned => "unassigned"

namespace Sweep

open Log

/-- A sweep that no partition belongs to yet. -/
def start (channel : String) : Sweep := ⟨channel, .empty⟩

/-- The sweep with the window of a partition marked as drained. -/
def drain (s : Sweep) (p : Int) (w : Window) : Sweep :=
  { s with windows := s.windows.insert p { w with drained := true } }

/-- The verdict on the record at an offset. The first record past the window drains the partition. -/
def judge (s : Sweep) (p offset : Int) : Admission × Sweep :=
  match s.windows.get? p with
  | none => (.unassigned, s)
  | some w =>
    if w.drained then (.drained, s)
    else if offset ≤ w.last then (.process, s)
    else (.drained, s.drain p w)

/-- Note that the record at an offset was worked off. The last one of the window drains the partition;
the answer is whether this one did. -/
def settle (s : Sweep) (p offset : Int) : Bool × Sweep :=
  match s.windows.get? p with
  | none => (false, s)
  | some w => if w.drained || offset < w.last then (false, s) else (true, s.drain p w)

/-- Note the least retained offset of a partition. If it lies past the window, nothing of the window is
left; the answer is whether this drained the partition. -/
def observeLow (s : Sweep) (p low : Int) : Bool × Sweep :=
  match s.windows.get? p with
  | none => (false, s)
  | some w => if w.drained || low ≤ w.last then (false, s) else (true, s.drain p w)

/-! ## What can be seen -/

/-- The partitions with something left to do. -/
def pending (s : Sweep) : List Int := (s.windows.filter fun _ w => !w.drained).keys

/-- The partitions that are done. -/
def drained (s : Sweep) : List Int := (s.windows.filter fun _ w => w.drained).keys

/-- There are partitions, and all are done. -/
def isComplete (s : Sweep) : Bool :=
  !s.windows.entries.isEmpty && s.windows.entries.all fun e => e.2.drained

/-- The last offset of the window of a partition. -/
def snapshot? (s : Sweep) (p : Int) : Option Int := (s.windows.get? p).map (·.last)

/-- The last offsets of all windows, with their partitions. -/
def snapshots (s : Sweep) : List (Int × Int) := s.windows.entries.map fun e => (e.1, e.2.last)

/-! ## What is reported -/

/-- Reported when a verdict drains the partition. -/
def judgeEntries (s : Sweep) (p offset : Int) : List Entry :=
  match s.windows.get? p with
  | none => []
  | some w =>
    if w.drained || offset ≤ w.last then []
    else [info .recovery "recovery reached snapshot; partition drained"
      [("channel", .text s.channel), ("partition", .number p), ("offset", .number offset),
        ("recovery_offset", .number w.last), ("outcome", .text "drained")]]

/-- Reported when retention drains the partition. -/
def observeLowEntries (s : Sweep) (p low : Int) : List Entry :=
  match s.windows.get? p with
  | none => []
  | some w =>
    if w.drained || low ≤ w.last then []
    else [info .recovery "recovery window removed by retention; partition drained"
      [("channel", .text s.channel), ("partition", .number p), ("low", .number low),
        ("recovery_offset", .number w.last), ("outcome", .text "drained")]]

/-- Reported when a partition gets its window. -/
def trackedEntry (s : Sweep) (p : Int) (marks : Watermarks) : Entry :=
  info .recovery "recovery snapshot taken"
    [("channel", .text s.channel), ("partition", .number p), ("low", .number marks.low),
      ("high", .number marks.high), ("recovery_offset", .number (marks.high - 1)),
      ("drained", .flag (marks.high ≤ marks.low))]

/-- Reported when a partition does not get its window. -/
def untrackedEntry (s : Sweep) (p : Int) (e : OffsetQueryError) : Entry :=
  error .recovery "offset query failed during assignment"
    [("channel", .text s.channel), ("partition", .number p), ("error", .text e.message)]

/-! ## Assignment -/

/-- The window of a partition that retains a given range. -/
def windowOf (marks : Watermarks) : Window := ⟨marks.high - 1, marks.high ≤ marks.low⟩

/-- Give a partition its window: ask for its range, then go back to its earliest record. -/
def track (control : Control) (p : Int) : Except OffsetQueryError (Watermarks × Int) := do
  let marks ← control.watermarks p
  let earliest ← control.seekEarliest p
  pure (marks, earliest)

/-- Give each partition its window. The first partition that fails loses the window it may have had, and
the ones after it are left alone. -/
def assigned (control : Control) : List Int → Sweep → Reaction Sweep
  | [], s => ⟨s, [], none, []⟩
  | p :: ps, s =>
    match track control p with
    | .error e => ⟨{ s with windows := s.windows.erase p }, [], some e, [s.untrackedEntry p e]⟩
    | .ok (marks, earliest) =>
      let entry := s.trackedEntry p marks
      let r := assigned control ps { s with windows := s.windows.insert p (windowOf marks) }
      { r with seeks := (p, earliest) :: r.seeks, entries := entry :: r.entries }

/-- Forget the windows of partitions. -/
def revoked (ps : List Int) (s : Sweep) : Sweep :=
  { s with windows := ps.foldl PartitionMap.erase s.windows }

/-- A sweep follows the assignments of its consumer. -/
def listener : Listener Sweep where
  assigned := assigned
  revoked := revoked

end Sweep

end OrderRelay
