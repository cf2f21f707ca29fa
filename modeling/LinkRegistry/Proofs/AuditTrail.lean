import LinkRegistry.Proofs.WriteCount

/-!
# The log as an audit trail

**Input.** A registry that operations lead to, and further operations that do not clear it, any
of which may be refused.

**Rule.** A write that succeeds logs one line, with the index that it reached; what the line says
depends on the operation and, for a link that is stored, on whether its id was known.  A link that
has an id but is not sound logs a warning with its id and fault.  Nothing else is logged: the
merged link of a patch is always sound, so its check never warns.

**Results.**
* `toLogLine_of_report?`, `rejection?_eq_some_iff`: what the lines say.
* `Sound.events_step`: what one operation logs.
* `Sound.events_run`: what a run logs, operation by operation.
* `Sound.reports_eq`: the lines of the writes, which are numbered without gaps.
* `Sound.warnings_eq`: the lines of the links that were rejected.
* `audited_after`: the log of operations on any registry that operations lead to.
-/

namespace LinkRegistry

namespace Operation

/-- What a write reports if it succeeds, given the registry that it meets. -/
def report? (r : Registry) : Operation → Option (Nat → Event)
  | .upsert l => some (if (r.find? l.id).isSome then Event.updated l.id else Event.created l.id)
  | .patch id _ => some (Event.patched id)
  | .allow id ip => some (Event.allowed ip id)
  | .delete ids => some (Event.deleted ids.eraseDups.length)
  | .get _ | .list _ | .clear => none

/-- What is reported of a link that has an id but is not sound. -/
def rejection? : Operation → Option Event
  | .upsert l =>
      if l.id = "" then none
      else
        match l.validate with
        | .error f => some (.rejected l.id f)
        | .ok () => none
  | .patch _ _ | .allow _ _ | .get _ | .delete _ | .list _ | .clear => none

/-- How the line of a write begins, given the registry that it meets: it names what was done,
and the id or the number of the links. -/
inductive Says (r : Registry) : Operation → String → Prop where
  | created {l : Link} (h : r.find? l.id = none) :
      Says r (.upsert l) ("[store] created connection " ++ l.id)
  | updated {l old : Link} (h : r.find? l.id = some old) :
      Says r (.upsert l) ("[store] updated connection " ++ l.id)
  | patched (id : String) (p : Patch) :
      Says r (.patch id p) ("[store] patched connection " ++ id)
  | allowed (id ip : String) :
      Says r (.allow id ip) ("[store] allowed " ++ ip ++ " on connection " ++ id)
  | deleted (ids : List String) :
      Says r (.delete ids)
        ("[store] deleted " ++ toString ids.eraseDups.length ++ " connection(s)")

end Operation

/-- An operation that was carried out or refused, and the registry that it met. -/
structure Encounter where
  registry : Registry
  deed : Deed

namespace Encounter

/-- What the operation reports of its write, if it was one and succeeded. -/
def report? (x : Encounter) : Option (Nat → Event) :=
  if x.deed.wrote then x.deed.operation.report? x.registry else none

/-- The write with the next index, or else the rejection, if there is either. -/
def events (x : Encounter) : List Event :=
  match x.report? with
  | some report => [report (x.registry.index + 1)]
  | none => x.deed.operation.rejection?.toList

theorem report?_of_not_wrote {x : Encounter} (h : x.deed.wrote = false) : x.report? = none :=
  if_neg (Bool.eq_false_iff.mp h)

theorem report?_of_wrote {x : Encounter} (h : x.deed.wrote = true) :
    ∃ report, x.deed.operation.report? x.registry = some report ∧ x.report? = some report := by
  have hreport : x.report? = x.deed.operation.report? x.registry := if_pos h
  rw [hreport]
  have hwrite := (Bool.and_eq_true_iff.mp h).1
  cases hop : x.deed.operation with
  | upsert _ | patch _ _ | allow _ _ | delete _ => exact ⟨_, rfl, rfl⟩
  | get _ | list _ | clear =>
      rw [hop] at hwrite
      cases hwrite

theorem isSome_report? (x : Encounter) : x.report?.isSome = x.deed.wrote := by
  cases h : x.deed.wrote with
  | true =>
      obtain ⟨report, -, hx⟩ := report?_of_wrote h
      rw [hx]
      rfl
  | false =>
      rw [report?_of_not_wrote h]
      rfl

theorem events_of_wrote {x : Encounter} (h : x.deed.wrote = true) {report : Nat → Event}
    (hreport : x.deed.operation.report? x.registry = some report) :
    x.events = [report (x.registry.index + 1)] := by
  obtain ⟨report', hreport', hx⟩ := report?_of_wrote h
  cases hreport.symm.trans hreport'
  unfold events
  rw [hx]

theorem events_of_not_wrote {x : Encounter} (h : x.deed.wrote = false) :
    x.events = x.deed.operation.rejection?.toList := by
  unfold events
  rw [report?_of_not_wrote h]

end Encounter

namespace Registry

/-- The operations of a run, each with its outcome and the registry that it met. -/
def encounters : Registry → List (Time.Timestamp × Operation) → List Encounter
  | _, [] => []
  | r, (now, op) :: ops =>
      ⟨r, op, r.step now op⟩ :: encounters (r.step now op).registry ops

/-- The lines that a run logs. -/
def log (r : Registry) (ops : List (Time.Timestamp × Operation)) : List LogLine :=
  ((r.run ops).1.flatMap Outcome.events).map Event.toLogLine

section Steps

variable {r : Registry} {op : Operation}

/-- The line of a write is an information, which says what was done and ends with the index. -/
theorem toLogLine_of_report? {report : Nat → Event} (h : op.report? r = some report) :
    ∃ start, op.Says r start ∧ ∀ n,
      (report n).toLogLine = ⟨.info, "meshlink.store", start ++ Event.indexNote n⟩ := by
  cases op with
  | upsert l =>
      cases h
      cases hfind : r.find? l.id with
      | none => exact ⟨_, .created hfind, fun n => rfl⟩
      | some old => exact ⟨_, .updated hfind, fun n => rfl⟩
  | patch id p =>
      cases h
      exact ⟨_, .patched id p, fun n => rfl⟩
  | allow id ip =>
      cases h
      exact ⟨_, .allowed id ip, fun n => rfl⟩
  | delete ids =>
      cases h
      exact ⟨_, .deleted ids, fun n => rfl⟩
  | get _ | list _ | clear => cases h

theorem severity_of_report? {report : Nat → Event} (h : op.report? r = some report) (n : Nat) :
    (report n).severity = .info := by
  obtain ⟨start, -, hline⟩ := toLogLine_of_report? h
  exact congrArg LogLine.severity (hline n)

theorem rejection?_eq_some_iff {e : Event} : op.rejection? = some e ↔
    ∃ l f, op = .upsert l ∧ l.id ≠ "" ∧ l.validate = .error f ∧ e = .rejected l.id f := by
  constructor
  · intro h
    cases op with
    | upsert l =>
        unfold Operation.rejection? at h
        dsimp only at h
        split at h
        · cases h
        · rename_i hid
          split at h
          · rename_i f hvalid
            cases h
            exact ⟨l, f, rfl, hid, hvalid, rfl⟩
          · cases h
    | patch _ _ | allow _ _ | get _ | delete _ | list _ | clear => cases h
  · rintro ⟨l, f, rfl, hid, hvalid, rfl⟩
    simp only [Operation.rejection?, if_neg hid, hvalid]

theorem severity_of_rejection? {e : Event} (h : op.rejection? = some e) :
    e.severity = .warning := by
  obtain ⟨l, f, -, -, -, rfl⟩ := rejection?_eq_some_iff.mp h
  rfl

theorem Encounter.filter_info_events (x : Encounter) :
    x.events.filter (fun e => e.severity = .info) =
      (x.report?.map fun report => report (x.registry.index + 1)).toList := by
  cases hwrote : x.deed.wrote with
  | true =>
      obtain ⟨report, hreport, hx⟩ := Encounter.report?_of_wrote hwrote
      rw [Encounter.events_of_wrote hwrote hreport, hx]
      simp [severity_of_report? hreport]
  | false =>
      rw [Encounter.events_of_not_wrote hwrote, Encounter.report?_of_not_wrote hwrote]
      cases hrejection : x.deed.operation.rejection? with
      | none => rfl
      | some e => simp [severity_of_rejection? hrejection]

theorem wrote_of_error (op : Operation) (f : Fault) (events : List Event) (r' : Registry) :
    (Deed.mk op ⟨.error f, events, r'⟩).wrote = false :=
  Bool.and_false _

/-- A refused operation reports nothing but a rejection. -/
theorem events_of_refused (f : Fault) (events : List Event) (r' : Registry) :
    (Encounter.mk r ⟨op, .error f, events, r'⟩).events = op.rejection?.toList :=
  Encounter.events_of_not_wrote (wrote_of_error op f events r')

theorem events_of_commit (hop : op.isWrite = true) {event : Nat → Event}
    (hreport : op.report? r = some event) (key : String) (l : Link) :
    (Encounter.mk r ⟨op, r.commit key l event⟩).events = (r.commit key l event).events := by
  have hwrote : (Deed.mk op (r.commit key l event)).wrote = true :=
    Bool.and_eq_true_iff.mpr ⟨hop, rfl⟩
  exact Encounter.events_of_wrote (x := ⟨r, op, r.commit key l event⟩) hwrote hreport

/-- What an operation logs is the report of its write, or a rejection. -/
theorem Sound.events_step (hr : r.Sound) (now : Time.Timestamp) (op : Operation) :
    (r.step now op).events = (Encounter.mk r ⟨op, r.step now op⟩).events := by
  cases op with
  | upsert l =>
      change (r.upsert now l).events = (Encounter.mk r ⟨_, r.upsert now l⟩).events
      by_cases hid : l.id = ""
      · rw [upsert_of_noId hid, refuse, events_of_refused]
        simp [Operation.rejection?, hid]
      · cases hvalid : l.validate with
        | error f =>
            rw [upsert_of_invalid hid hvalid, events_of_refused]
            simp [Operation.rejection?, hid, hvalid]
        | ok u =>
            rw [upsert_eq_of_valid hid hvalid, events_of_commit rfl rfl]
  | patch id p =>
      change (r.patch now id p).events = (Encounter.mk r ⟨_, r.patch now id p⟩).events
      cases hl : r.find? id with
      | none =>
          rw [patch_of_unknown hl, refuse, events_of_refused]
          rfl
      | some l => rw [hr.patch_eq hl, events_of_commit rfl rfl]
  | allow id ip =>
      change (r.allow now id ip).events = (Encounter.mk r ⟨_, r.allow now id ip⟩).events
      cases hl : r.find? id with
      | none =>
          rw [allow_of_unknown hl, refuse, events_of_refused]
          rfl
      | some l => rw [hr.allow_eq hl, events_of_commit rfl rfl]
  | get id =>
      change (r.get id).events = (Encounter.mk r ⟨_, r.get id⟩).events
      rw [Encounter.events_of_not_wrote rfl]
      cases hl : r.find? id with
      | none =>
          rw [get_of_unknown hl]
          rfl
      | some l =>
          rw [get_of_known hl]
          rfl
  | delete ids =>
      change (r.delete ids).events = (Encounter.mk r ⟨_, r.delete ids⟩).events
      cases hunknown : ids.find? fun id => (r.find? id).isNone with
      | some id =>
          rw [delete_of_unknown hunknown, refuse, events_of_refused]
          rfl
      | none =>
          rw [delete_of_known hunknown]
          rfl
  | list f =>
      change (r.list f).events = (Encounter.mk r ⟨_, r.list f⟩).events
      rw [Encounter.events_of_not_wrote rfl]
      unfold list
      cases f.summaries r.entries <;> rfl
  | clear => rfl

theorem Sound.filter_warning_step (hr : r.Sound) (now : Time.Timestamp) (op : Operation) :
    (r.step now op).events.filter (fun e => e.severity = .warning) = op.rejection?.toList := by
  rw [hr.events_step]
  cases hrejection : op.rejection? with
  | none =>
      cases hwrote : (Deed.mk op (r.step now op)).wrote with
      | true =>
          obtain ⟨report, hreport, -⟩ := Encounter.report?_of_wrote (x := ⟨r, op, _⟩) hwrote
          rw [Encounter.events_of_wrote hwrote hreport]
          simp [severity_of_report? hreport]
      | false =>
          rw [Encounter.events_of_not_wrote hwrote]
          simp [hrejection]
  | some e =>
      obtain ⟨l, f, rfl, hid, hvalid, rfl⟩ := rejection?_eq_some_iff.mp hrejection
      change (Encounter.mk r ⟨_, r.upsert now l⟩).events.filter _ = _
      rw [upsert_of_invalid hid hvalid, events_of_refused, hrejection]
      rfl

end Steps

section Runs

variable {r : Registry}

theorem encounters_cons (r : Registry) (x : Time.Timestamp × Operation)
    (ops : List (Time.Timestamp × Operation)) :
    r.encounters (x :: ops) =
      ⟨r, x.2, r.step x.1 x.2⟩ :: (r.step x.1 x.2).registry.encounters ops :=
  rfl

theorem map_deed_encounters (r : Registry) (ops : List (Time.Timestamp × Operation)) :
    (r.encounters ops).map Encounter.deed = r.history ops := by
  induction ops generalizing r with
  | nil => rfl
  | cons x ops ih => rw [encounters_cons, history_cons, List.map_cons, ih]

/-- Operation by operation, the events of a run are reports and rejections. -/
theorem Sound.events_run (hr : r.Sound) (ops : List (Time.Timestamp × Operation)) :
    (r.run ops).1.flatMap Outcome.events = (r.encounters ops).flatMap Encounter.events := by
  induction ops generalizing r with
  | nil => rfl
  | cons x ops ih =>
      rw [encounters_cons, List.flatMap_cons, ← hr.events_step, ← ih (hr.step x.1 x.2)]
      rfl

/-- As long as nothing is cleared, the reports of the writes are numbered in turn. -/
theorem Sound.reports_eq (hr : r.Sound) {ops : List (Time.Timestamp × Operation)}
    (hclear : ∀ x ∈ ops, x.2 ≠ .clear) :
    ((r.encounters ops).flatMap Encounter.events).filter (fun e => e.severity = .info) =
      (((r.encounters ops).filterMap Encounter.report?).zipIdx (r.index + 1)).map
        fun x => x.1 x.2 := by
  induction ops generalizing r with
  | nil => rfl
  | cons y ops ih =>
      obtain ⟨now, op⟩ := y
      obtain ⟨hop, hops⟩ := List.forall_mem_cons.mp hclear
      have hrest := ih (hr.step now op) hops
      have haccounts : r.Accounts ⟨op, r.step now op⟩ := hr.accounts now op
      rw [encounters_cons, List.flatMap_cons, List.filter_append, Encounter.filter_info_events,
        List.filterMap_cons]
      cases hwrote : (Deed.mk op (r.step now op)).wrote with
      | true =>
          obtain ⟨report, -, hx⟩ := Encounter.report?_of_wrote (x := ⟨r, op, _⟩) hwrote
          have hindex : (r.step now op).registry.index = r.index + 1 :=
            (haccounts.of_wrote hwrote).1
          rw [hindex] at hrest
          simp only [hx, hrest, Option.map_some, Option.toList_some, List.zipIdx_cons,
            List.map_cons, List.singleton_append]
      | false =>
          have hx := Encounter.report?_of_not_wrote (x := ⟨r, op, _⟩) hwrote
          have hclears : (Deed.mk op (r.step now op)).clears = false := beq_false_of_ne hop
          have hregistry : (r.step now op).registry = r :=
            (haccounts.of_not_wrote hwrote hclears).1
          simp only [hx, Option.map_none, Option.toList_none, List.nil_append]
          rw [hrest, hregistry]

/-- The warnings of a run are those of the links with an id that are not sound. -/
theorem Sound.warnings_eq (hr : r.Sound) (ops : List (Time.Timestamp × Operation)) :
    ((r.run ops).1.flatMap Outcome.events).filter (fun e => e.severity = .warning) =
      ops.filterMap fun x => x.2.rejection? := by
  induction ops generalizing r with
  | nil => rfl
  | cons x ops ih =>
      have hrest := ih (hr.step x.1 x.2)
      change ((r.step x.1 x.2).events ++
        ((r.step x.1 x.2).registry.run ops).1.flatMap Outcome.events).filter _ = _
      rw [List.filter_append, hr.filter_warning_step, hrest, List.filterMap_cons]
      cases x.2.rejection? <;> rfl

/-- Each operation that wrote reports once, and no other does. -/
theorem length_reports (r : Registry) (ops : List (Time.Timestamp × Operation)) :
    ((r.encounters ops).filterMap Encounter.report?).length =
      (r.history ops).countP Deed.wrote := by
  rw [List.length_filterMap_eq_countP, ← map_deed_encounters, List.countP_map]
  refine List.countP_congr fun x _ => ?_
  rw [Encounter.isSome_report?]
  rfl

/-- The log of operations on a registry tells which of them wrote and which links were rejected:
each operation logs what it reports, in its place; the writes have one information each, which
says what was done and is numbered from the next index on; the rejected links have one warning
each, with their ids and faults. -/
structure Audited (r : Registry) (ops : List (Time.Timestamp × Operation)) : Prop where
  in_place : r.log ops =
    ((r.encounters ops).flatMap Encounter.events).map Event.toLogLine
  writes : (r.log ops).filter (fun line => line.severity = .info) =
    (((r.encounters ops).filterMap Encounter.report?).zipIdx (r.index + 1)).map
      fun x => (x.1 x.2).toLogLine
  one_each : ((r.encounters ops).filterMap Encounter.report?).length =
    (r.history ops).countP Deed.wrote
  numbered : ∀ x ∈ r.encounters ops, ∀ report, x.report? = some report → ∃ start,
    x.deed.operation.Says x.registry start ∧ ∀ n,
      (report n).toLogLine = ⟨.info, "meshlink.store", start ++ Event.indexNote n⟩
  warnings : (r.log ops).filter (fun line => line.severity = .warning) =
    (ops.filterMap fun x => x.2.rejection?).map Event.toLogLine
  rejected_iff : ∀ x ∈ ops, ∀ line, x.2.rejection?.map Event.toLogLine = some line ↔
    ∃ l f, x.2 = .upsert l ∧ l.id ≠ "" ∧ l.validate = .error f ∧
      line = ⟨.warning, "meshlink.store",
        "[store] rejected connection " ++ l.id ++ ": " ++ f.message⟩

theorem Sound.audited (hr : r.Sound) {ops : List (Time.Timestamp × Operation)}
    (hclear : ∀ x ∈ ops, x.2 ≠ .clear) : r.Audited ops where
  in_place := congrArg (List.map Event.toLogLine) (hr.events_run ops)
  writes := by
    unfold log
    rw [List.filter_map, hr.events_run]
    refine (congrArg (List.map Event.toLogLine) (hr.reports_eq hclear)).trans ?_
    rw [List.map_map]
    rfl
  one_each := length_reports r ops
  numbered := by
    intro x _ report hreport
    unfold Encounter.report? at hreport
    split at hreport
    · exact toLogLine_of_report? hreport
    · cases hreport
  warnings := by
    unfold log
    rw [List.filter_map]
    exact congrArg (List.map Event.toLogLine) (hr.warnings_eq ops)
  rejected_iff := by
    intro x _ line
    rw [Option.map_eq_some_iff]
    constructor
    · rintro ⟨e, he, rfl⟩
      obtain ⟨l, f, hop, hid, hvalid, rfl⟩ := rejection?_eq_some_iff.mp he
      exact ⟨l, f, hop, hid, hvalid, rfl⟩
    · rintro ⟨l, f, hop, hid, hvalid, rfl⟩
      exact ⟨.rejected l.id f, rejection?_eq_some_iff.mpr ⟨l, f, hop, hid, hvalid, rfl⟩, rfl⟩

/-- Every way to write, and every way to be refused. -/
def trialAudit : List (Time.Timestamp × Operation) :=
  [.upsert (trialLink "b" "j" "i"), .upsert (trialLink "d" "i" "i"), .upsert (trialLink "" "i" "i"),
    .patch "z" ⟨none, none⟩, .patch "b" ⟨some [], none⟩, .allow "d" "y", .allow "c" "y", .get "d",
    .delete ["b", "c", "b"], .delete ["b"], .list Filter.all,
    .upsert (trialLink "b" "i" "j")].map fun op => (trialTime, op)

example : ((after trial).log trialAudit).map LogLine.render =
    ["INFO meshlink.store [store] updated connection b (index=6)",
      "WARNING meshlink.store [store] rejected connection d: can't connect an interface to itself",
      "INFO meshlink.store [store] patched connection b (index=7)",
      "INFO meshlink.store [store] allowed y on connection c (index=8)",
      "INFO meshlink.store [store] deleted 2 connection(s) (index=9)",
      "INFO meshlink.store [store] created connection b (index=10)"] := by
  decide +kernel

end Runs
end Registry
end LinkRegistry
