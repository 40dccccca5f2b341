import StyleAudit.Audit
import StyleAudit.Proofs.Battery.Isolation
import StyleAudit.Proofs.Log.Creation
import StyleAudit.Proofs.Log.Entries

/-!
# Outcomes of audits

An audit stops when its source cannot be loaded or its log cannot be created; otherwise it comes to
an outcome (`Auditor.run_outcome`).  The log is written, and read back for the mail, before anything
is known about the delivery, and only a delivery that failed is recorded in it afterwards
(`Auditor.finish_eq`).  So the mail carries the log up to the summary, the log on the disk ends in
the entry on the failure if there is one, and the report is settled before the transport is asked.

Checks may call tools, and tools may leave files behind.  The log is one more file on the disk that
the checks leave, and there it is the only one (`Outcome.Logged`).  That it is the only one since
the start holds if the checks leave the disk alone, as they do without preprocessor and search for
leaks (`Auditor.examine_disk`), and not in general (`Auditor.run_outcome_extraFile`).
-/

namespace StyleAudit

namespace Delivery

/-- What the answer of a transport comes to. -/
def ofAnswer : Except Failure Unit → Delivery
  | .ok () => .sent
  | .error e => .failed e.message

/-- What a delivery adds to the log. -/
def note (now : Moment) : Delivery → String
  | .failed message => now.stamp ++ " - " ++ "ERROR" ++ " - " ++ message ++ "\n"
  | _ => ""

theorem ofAnswer_ne_skipped (answer : Except Failure Unit) : ofAnswer answer ≠ .skipped := by
  cases answer <;> simp [ofAnswer]

end Delivery

/-- A mail can be built: with the addresses of the settings and the log as it is on the disk. -/
theorem Envelope.exists_build {d : Disk} {m : MailSettings} {log : Path} {content : List UInt8}
    (hm : m.isConfigured) (hlog : d.read log = .ok content) (report : Report) (now : Moment) :
    ∃ envelope, build d report log m now = .ok envelope ∧ m.sender = some envelope.sender ∧
      m.recipient = some envelope.recipient ∧ envelope.attachment = content := by
  simp only [MailSettings.isConfigured, Bool.and_eq_true] at hm
  obtain ⟨sender, hs⟩ := Option.isSome_iff_exists.1 hm.1.2
  obtain ⟨recipient, hr⟩ := Option.isSome_iff_exists.1 hm.2
  rw [build, hs, hr, hlog]
  exact ⟨_, rfl, rfl, rfl, rfl⟩

namespace Auditor

variable {a : Auditor} {d : Disk} {log : Log}

/-! ### Deliveries -/

/-- Mail is sent: there is a transport, and the settings ask for it. -/
def Mails (a : Auditor) : Prop := a.transport.isSome ∧ a.settings.mail.isConfigured

theorem deliver_of_not_mails (h : ¬a.Mails) (d : Disk) (now : Moment) (report : Report)
    (log : Log) : a.deliver d now report log = (.skipped, none) := by
  rw [deliver]
  split
  · rfl
  · next transport ht =>
    have hm : a.settings.mail.isConfigured = false := by
      rw [Mails, ht] at h
      simpa using h
    rw [hm]
    rfl

theorem deliver_of_transport {transport : Transport} {envelope : Envelope} {report : Report}
    {now : Moment} (ht : a.transport = some transport) (hm : a.settings.mail.isConfigured)
    (hb : Envelope.build d report log.path a.settings.mail now = .ok envelope) :
    a.deliver d now report log = (.ofAnswer (transport envelope), some envelope) := by
  rw [deliver, ht]
  simp only [hm, hb]
  cases transport envelope <;> rfl

/-- A mail is skipped, or it is handed over with the log as it is on the disk. -/
theorem deliver_cases {content : List UInt8} (hlog : d.read log.path = .ok content) (a : Auditor)
    (now : Moment) (report : Report) :
    (¬a.Mails ∧ a.deliver d now report log = (.skipped, none)) ∨
      a.Mails ∧ ∃ transport envelope, a.transport = some transport ∧
        a.settings.mail.sender = some envelope.sender ∧
        a.settings.mail.recipient = some envelope.recipient ∧ envelope.attachment = content ∧
        a.deliver d now report log = (.ofAnswer (transport envelope), some envelope) := by
  by_cases hm : a.Mails
  · obtain ⟨transport, ht⟩ := Option.isSome_iff_exists.1 hm.1
    obtain ⟨envelope, hb, hs, hr, hc⟩ := Envelope.exists_build hm.2 hlog report now
    exact .inr ⟨hm, transport, envelope, ht, hs, hr, hc, deliver_of_transport ht hm.2 hb⟩
  · exact .inl ⟨hm, deliver_of_not_mails hm d now report log⟩

/-- The transport is asked about the mail that is handed over, and about no other one. -/
theorem deliver_congr {transport transport' : Transport} {now : Moment} {report : Report}
    (ht : a.transport = some transport)
    (h : ∀ envelope ∈ (a.deliver d now report log).2, transport' envelope = transport envelope) :
    ({ a with transport := some transport' } : Auditor).deliver d now report log =
      a.deliver d now report log := by
  rw [deliver, ht] at h
  rw [deliver, deliver, ht]
  dsimp only at h ⊢
  split
  · rfl
  · next hm =>
    rw [if_neg hm] at h
    cases hb : Envelope.build d report log.path a.settings.mail now with
    | error e => rfl
    | ok envelope =>
      have hsame : transport' envelope = transport envelope := by
        refine h envelope ?_
        rw [hb]
        dsimp only
        split <;> rfl
      simp only [hsame]

theorem recordDelivery_eq {content : List UInt8}
    (h : d.root.get? log.location = some (.file content)) (now : Moment) (delivery : Delivery) :
    recordDelivery d now log delivery =
      d.put log.location (.file (content ++ Disk.bytesOf (delivery.note now))) := by
  have hsame : d = d.put log.location (.file (content ++ Disk.bytesOf "")) := by
    have hnil : content ++ Disk.bytesOf "" = content := List.append_nil content
    rw [hnil, Disk.put_self h]
  cases delivery with
  | failed message => exact Disk.appendText_eq h _
  | sent => exact hsame
  | skipped => exact hsame

/-! ### Checks -/

/-- What the checks leave of a disk is related to it. -/
def ChecksKeep (a : Auditor) (R : Disk → Disk → Prop) : Prop :=
  ∀ d doc, R d (a.examine d doc).2

/-- Without search for leaks, the checks keep what the tools keep, and without preprocessor they
call no tools. -/
theorem checksKeep_ofSettings {R : Disk → Disk → Prop} {s : Settings} {tools : Tools}
    (hrefl : ∀ d, R d d) (htrans : ∀ {x y z}, R x y → R y z → R x z)
    (hl : s.leakCheck.enabled = false)
    (htools : s.naming.preprocess →
      ∀ d call output left, tools.call d call = .ok (output, left) → R d left)
    (buildDir : Path) (transport : Option Transport) :
    ({ ofSettings s tools buildDir with transport } : Auditor).ChecksKeep R := by
  intro d doc
  have hbattery : Battery.ofSettings s (s.leakCheck.check tools buildDir) =
      Battery.standard (s.leakCheck.check tools buildDir) := by simp [Battery.ofSettings, hl]
  simp only [examine, ofSettings, hbattery]
  refine Battery.run_catalog_frame _ hrefl htrans (fun disk => ?_)
    (absurd · Battery.not_mem_standard_memoryLeak)
  change R disk (s.naming.source tools doc disk).2
  rw [Naming.source]
  split
  · next hp =>
    simp only [Preprocessor.declarations, Preprocessor.run, Tools.run]
    split
    · exact htools hp _ _ _ _ ‹_›
    · exact hrefl disk
    · exact hrefl disk
  · exact hrefl disk

/-- Without preprocessor and search for leaks, checks leave the disk alone. -/
theorem examine_disk {s : Settings} (hp : s.naming.preprocess = false)
    (hl : s.leakCheck.enabled = false) (tools : Tools) (buildDir : Path)
    (transport : Option Transport) (d : Disk) (doc : Document) :
    (({ ofSettings s tools buildDir with transport } : Auditor).examine d doc).2 = d :=
  checksKeep_ofSettings (R := fun d d' => d' = d) (fun _ => rfl) (fun h h' => h'.trans h) hl
    (fun h => absurd h (by simp [hp])) buildDir transport d doc

/-! ### Runs -/

/-- The text of the log of a report up to the summary. -/
def logged (clock : Clock) (report : Report) : String :=
  LogEntry.written clock report.logged ++ report.loggedSummary

/-- The disk with the log of a report up to the summary, as the mail is built from it. -/
def withLog (d : Disk) (clock : Clock) (report : Report) (log : Log) : Disk :=
  d.put log.location (.file (Disk.bytesOf (logged clock report)))

theorem length_logEntries (report : Report) :
    report.logEntries.length = report.logged.length := by
  rw [← report.map_shown_logEntries, List.length_map]

/-- **The log is written before the mail is sent.**  Only what became of the mail is added to it
afterwards. -/
theorem finish_eq (h : d.NewLog log) (a : Auditor) (clock : Clock) (report : Report) :
    let sent := a.deliver (withLog d clock report log) (clock report.logged.length) report log
    a.finish (d.put log.location (.file [])) clock report log =
      (⟨report, log.path, sent.1, sent.2⟩,
        d.put log.location (.file (Disk.bytesOf
          (logged clock report ++ sent.1.note (clock (report.logged.length + 1)))))) := by
  intro sent
  have hempty : (d.put log.location (.file [])).root.get? log.location = some (.file []) :=
    (h.get?_put [] log.location []).2 (.inl ⟨rfl, rfl⟩)
  have hlogged : (withLog d clock report log).root.get? log.location =
      some (.file (Disk.bytesOf (logged clock report))) :=
    (h.get?_put _ log.location _).2 (.inl ⟨rfl, rfl⟩)
  have hwritten : ((d.put log.location (.file [])).appendReport log clock report).appendSummary log
      report = withLog d clock report log := by
    rw [Disk.appendSummary_eq hempty, h.put_put, List.nil_append, withLog, logged]
  simp only [finish, hwritten, length_logEntries]
  rw [recordDelivery_eq hlogged, withLog, h.put_put, ← Disk.bytesOf_append]
  rfl

theorem run_of_load_error {path : Path} {e : Failure} (h : d.load path = .error e) (a : Auditor)
    (clock : Clock) : a.run d clock path = (.error (.failure e), d) := by
  rw [run, h]

section Loaded

variable {clock : Clock} {path : Path} {doc : Document} {d₀ d' : Disk}
  (hload : d.load path = .ok doc)
include hload

theorem run_of_examine_none (hexamine : a.examine d doc = (none, d₀)) :
    a.run d clock path = (.error .overflow, d₀) := by
  rw [run, hload]
  simp only [hexamine]

variable {report : Report} (hexamine : a.examine d doc = (some report, d₀))
include hexamine

theorem run_of_createLog_error {e : Failure}
    (hlog : d₀.createLog a.settings.general path (clock 0) = (.error e, d')) :
    a.run d clock path = (.error (.failure e), d') := by
  rw [run, hload]
  simp only [hexamine, hlog]

/-- What an audit does whose log can be created. -/
theorem run_of_createLog (hnew : d'.NewLog log)
    (hlog : d₀.createLog a.settings.general path (clock 0) =
      (.ok log, d'.put log.location (.file []))) :
    let sent := a.deliver (withLog d' (clock.later 1) report log)
      (clock (report.logged.length + 1)) report log
    a.run d clock path =
      (.ok ⟨report, log.path, sent.1, sent.2⟩,
        d'.put log.location (.file (Disk.bytesOf (logged (clock.later 1) report ++
          sent.1.note (clock (report.logged.length + 2)))))) := by
  intro sent
  have hfirst : clock.later 1 report.logged.length = clock (report.logged.length + 1) := by
    rw [Clock.later, Nat.add_comm]
  have hsecond : clock.later 1 (report.logged.length + 1) = clock (report.logged.length + 2) := by
    rw [Clock.later, Nat.add_comm]
  rw [run, hload]
  simp only [hexamine, hlog]
  rw [finish_eq hnew, hfirst, hsecond]

end Loaded

/-- What an audit does to a disk: its checks may change it, then it is prepared, and a new log may
be put on it. -/
theorem run_disk_cases (a : Auditor) (d : Disk) (clock : Clock) (path : Path) :
    ∃ d₀ d', (d₀ = d ∨ ∃ doc, d₀ = (a.examine d doc).2) ∧ d₀.Prepares d' ∧
      ((a.run d clock path).2 = d' ∨
        ∃ log content, d'.NewLog log ∧
          (a.run d clock path).2 = d'.put log.location (.file content)) := by
  cases hload : d.load path with
  | error e => exact ⟨d, d, .inl rfl, .refl d, .inl (by rw [run_of_load_error hload])⟩
  | ok doc =>
    rcases hexamine : a.examine d doc with ⟨_ | report, d₀⟩
    · exact ⟨d₀, d₀, .inr ⟨doc, by rw [hexamine]⟩, .refl d₀,
        .inl (by rw [run_of_examine_none hload hexamine])⟩
    · refine ⟨d₀, ?_⟩
      rcases hlog : d₀.createLog a.settings.general path (clock 0) with ⟨e | log, d'⟩
      · exact ⟨d', .inr ⟨doc, by rw [hexamine]⟩, Disk.createLog_error hlog,
          .inl (by rw [run_of_createLog_error hload hexamine hlog])⟩
      · obtain ⟨d₁, hprep, hnew, rfl⟩ := Disk.createLog_ok hlog
        exact ⟨d₁, .inr ⟨doc, by rw [hexamine]⟩, hprep,
          .inr ⟨log, _, hnew, by rw [run_of_createLog hload hexamine hnew hlog]⟩⟩

end Auditor

/-! ### Outcomes -/

namespace Outcome

/-- The log as it is in the end: the entries of the report, two empty lines and the summary, and one
more entry if the mail was not delivered. -/
def logText (outcome : Outcome) (clock : Clock) : String :=
  LogEntry.written (clock.later 1) outcome.report.logged ++ outcome.report.loggedSummary ++
    outcome.delivery.note (clock (outcome.report.logged.length + 2))

/-- The log of an outcome is a new file, and no other file is new or changed. -/
structure Logged (outcome : Outcome) (clock : Clock) (location : List String) (d d' : Disk) :
    Prop where
  /-- Nothing was at the location. -/
  new : d.root.get? location = none
  /-- The files are the log and those from before. -/
  files (there : List String) (bytes : List UInt8) :
    d'.root.get? there = some (.file bytes) ↔
      (there = location ∧ bytes = Utf8.encode (outcome.logText clock).toList) ∨
        d.root.get? there = some (.file bytes)
  /-- The log is at the path that the outcome names. -/
  read : d'.read outcome.log = .ok (Utf8.encode (outcome.logText clock).toList)

/-- The mail of an outcome is skipped, or it carries the log up to the summary, and the delivery is
what the transport answers to it. -/
structure Mailed (outcome : Outcome) (a : Auditor) (clock : Clock) : Prop where
  /-- Mail is skipped if there is nothing to send it with or nobody to send it to. -/
  skipped_iff : outcome.delivery = .skipped ↔
    a.transport = none ∨ a.settings.mail.isConfigured = false
  /-- No mail is handed over if it is skipped. -/
  mail_eq_none_iff : outcome.mail = none ↔ outcome.delivery = .skipped
  /-- What is handed over, and to whom. -/
  mail_eq_some {envelope : Envelope} : outcome.mail = some envelope →
    a.settings.mail.sender = some envelope.sender ∧
      a.settings.mail.recipient = some envelope.recipient ∧
      envelope.attachment =
        Utf8.encode (LogEntry.written (clock.later 1) outcome.report.logged ++
          outcome.report.loggedSummary).toList ∧
      ∃ transport, a.transport = some transport ∧
        outcome.delivery = .ofAnswer (transport envelope)

theorem logged_put {outcome : Outcome} {log : Log} {d d₁ : Disk} (hprep : d.Prepares d₁)
    (hnew : d₁.NewLog log) (hlog : outcome.log = log.path) (clock : Clock) :
    outcome.Logged clock log.location d
      (d₁.put log.location (.file (Utf8.encode (outcome.logText clock).toList))) where
  new := by
    by_contra hne
    obtain ⟨x, hx⟩ := Option.ne_none_iff_exists'.1 hne
    obtain ⟨x', hx', -⟩ := hprep.keepsDirs.keeps log.location x hx
    rw [hnew.free.1] at hx'
    cases hx'
  files there bytes :=
    (hnew.get?_put _ there bytes).trans (or_congr_right (hprep.sameFiles there bytes))
  read := by rw [hlog, hnew.read_put]

theorem mailed_of_deliver {outcome : Outcome} {a : Auditor} {clock : Clock} {now : Moment}
    {log : Log} {d : Disk}
    (hlog : d.read log.path =
      .ok (Utf8.encode (LogEntry.written (clock.later 1) outcome.report.logged ++
        outcome.report.loggedSummary).toList))
    (hsent : a.deliver d now outcome.report log = (outcome.delivery, outcome.mail)) :
    outcome.Mailed a clock := by
  have hskip : ¬a.Mails ↔ a.transport = none ∨ a.settings.mail.isConfigured = false := by
    rw [Auditor.Mails, not_and_or, Bool.not_eq_true, Bool.not_eq_true, Option.isSome_eq_false_iff,
      Option.isNone_iff_eq_none]
  obtain ⟨hm, hd⟩ | ⟨hm, transport, envelope, ht, hs, hr, hc, hd⟩ :=
    Auditor.deliver_cases hlog a now outcome.report
  · obtain ⟨hdelivery, hmail⟩ := Prod.mk.inj (hsent.symm.trans hd)
    refine ⟨?_, ?_, ?_⟩
    · exact iff_of_true hdelivery (hskip.1 hm)
    · exact iff_of_true hmail hdelivery
    · intro other hother
      rw [hmail] at hother
      cases hother
  · obtain ⟨hdelivery, hmail⟩ := Prod.mk.inj (hsent.symm.trans hd)
    have hne : outcome.delivery ≠ .skipped := by
      rw [hdelivery]
      exact Delivery.ofAnswer_ne_skipped _
    refine ⟨?_, ?_, ?_⟩
    · exact iff_of_false hne fun h => hskip.2 h hm
    · exact iff_of_false (by rw [hmail]; exact Option.some_ne_none envelope) hne
    · intro other hother
      obtain rfl := Option.some.inj (hmail.symm.trans hother)
      exact ⟨hs, hr, hc, transport, ht, hdelivery⟩

end Outcome

namespace Auditor

/-- **What an audit comes to.**  A source that cannot be loaded ends it with that failure, and the
disk is untouched.  Otherwise let the checks make a report and leave a disk, changed by tools or
not.  A log that cannot be created there ends the audit with that failure, and no further file is
new or changed.  If it can be created, the audit comes to an outcome.  One further file is new, the
log, and it holds the entries of the report, then the summary, and then an entry on the delivery if
it failed.  Mail is skipped exactly if there is no transport or the settings do not ask for it; if
not, the configured recipient is sent the log up to the summary, and the transport is asked about
that mail and no other.  The report does not depend on the transport.

Without preprocessor and search for leaks, the checks leave the disk as it was at the start. -/
theorem run_outcome (a : Auditor) (d : Disk) (clock : Clock) (path : Path) :
    (∀ e, d.load path = .error e → a.run d clock path = (.error (.failure e), d)) ∧
      (∀ doc report d₀, d.load path = .ok doc → a.examine d doc = (some report, d₀) →
        (∀ e d', d₀.createLog a.settings.general path (clock 0) = (.error e, d') →
          a.run d clock path = (.error (.failure e), d') ∧ d₀.root.SameFiles d'.root) ∧
        ∀ log d₁, d₀.createLog a.settings.general path (clock 0) = (.ok log, d₁) →
          ∃ outcome d', a.run d clock path = (.ok outcome, d') ∧ outcome.log = log.path ∧
            outcome.report = report ∧ outcome.Logged clock log.location d₀ d' ∧
            outcome.Mailed a clock ∧
            (∀ transport, ∃ other d'',
              ({ a with transport } : Auditor).run d clock path = (.ok other, d'') ∧
                other.report = outcome.report) ∧
            ∀ transport transport', a.transport = some transport →
              (∀ envelope ∈ outcome.mail, transport' envelope = transport envelope) →
              ({ a with transport := some transport' } : Auditor).run d clock path =
                a.run d clock path) ∧
      ∀ s tools buildDir transport, s.naming.preprocess = false → s.leakCheck.enabled = false →
        a = { ofSettings s tools buildDir with transport } → ∀ doc, (a.examine d doc).2 = d := by
  refine ⟨fun e h => run_of_load_error h a clock, fun doc report d₀ hload hexamine =>
    ⟨fun e d' hlog => ?_, fun log d₂ hlog => ?_⟩, ?_⟩
  · exact ⟨run_of_createLog_error hload hexamine hlog, (Disk.createLog_error hlog).sameFiles⟩
  · obtain ⟨d₁, hprep, hnew, rfl⟩ := Disk.createLog_ok hlog
    have hrun := run_of_createLog hload hexamine hnew hlog
    -- the report is made without looking at the transport
    have hother (transport : Option Transport) :=
      run_of_createLog (a := { a with transport }) hload hexamine hnew hlog
    refine ⟨_, _, hrun, rfl, rfl, Outcome.logged_put hprep hnew rfl clock,
      Outcome.mailed_of_deliver (hnew.read_put _) rfl, fun transport => ?_, ?_⟩
    · exact ⟨_, _, hother transport, rfl⟩
    · intro transport transport' ht hsame
      -- Up to the delivery nothing depends on the transport, so it is handed the same mail.
      have hother := hother (some transport')
      simp only [deliver_congr ht hsame] at hother
      exact hother.trans hrun.symm
  · rintro s tools buildDir transport hp hl rfl doc
    exact examine_disk hp hl tools buildDir transport d doc

/-- A disk with one source, a line that is not UTF-8. -/
def loneSource : Disk := ⟨.dir false [("a.c", .file [0xFF, 0x0A])], []⟩

/-- A clock that goes on by a second each time. -/
def morning : Clock := fun n => ⟨2024, 3, 4, 9, 5, 7 + n, 0⟩

/-- An auditor with two rules, a preprocessor that fails and leaves a file behind, and a transport
that never succeeds. -/
def unreachable : Auditor where
  settings := { mail := { sender := some "a@b.c", recipient := some "d@e.f" } }
  battery := [RuleId.encoding, RuleId.typeCase].map
    (Check.catalog fun _ _ disk => (.error (.tool "cc" "missing"), disk))
  source := fun _ disk => (.error (.failure (.tool "cpp" "missing")), disk.put ["a.i"] (.file []))
  transport := some fun _ => .error (.delivery "no answer" none)

/-- The log that it writes. -/
def unreachableLog : String :=
  "2024-03-04 09:05:08,000 - INFO - Starting Script Analysis.\n" ++
  "2024-03-04 09:05:09,000 - ERROR - line 1: [file_encoding] File is not UTF-8 encoded - " ++
    "Please save the file in UTF-8 format.\n" ++
  "2024-03-04 09:05:10,000 - INFO - File Format Consistency Verification completed - Count: 1\n" ++
  "2024-03-04 09:05:11,000 - ERROR - [naming_type_case] Subprocess 'cpp' failed: missing\n" ++
  "2024-03-04 09:05:12,000 - INFO - Script Analysis completed.\n" ++
  "\n\n---------------------------------------------\n" ++
  "Summary of issues observed:\n" ++
  "  Check                           Count\n" ++
  "  file_encoding                   1\n" ++
  "---------------------------------------------\n" ++
  "2024-03-04 09:05:14,000 - ERROR - Error occurred while sending email: no answer\n"

theorem run_outcome_unreachable :
    unreachable.run loneSource morning ⟨"b.c"⟩ =
        (.error (.failure (.notFound ⟨"b.c"⟩)), loneSource) ∧
      ∃ outcome d', unreachable.run loneSource morning ⟨"a.c"⟩ = (.ok outcome, d') ∧
        outcome.delivery = .failed "Error occurred while sending email: no answer" ∧
        d'.root.get? ["Logs", "Logs-a-at-09-05-07-on-04-03-2024.log"] =
          some (.file (Utf8.encode unreachableLog.toList)) ∧
        d'.root.get? ["a.c"] = some (.file [0xFF, 0x0A]) ∧
        d'.root.get? ["a.i"] = some (.file []) := by
  have hbad : loneSource.load ⟨"b.c"⟩ = .error (.notFound ⟨"b.c"⟩) := by rfl
  have hload : loneSource.load ⟨"a.c"⟩ = .ok (.ofBytes ⟨"a.c"⟩ [0xFF, 0x0A]) := by rfl
  let report : Report :=
    ⟨⟨"a.c"⟩, [(.encoding, 1)],
      [.of .encoding 1 "File is not UTF-8 encoded - Please save the file in UTF-8 format."], true,
      [⟨.typeCase, "Subprocess 'cpp' failed: missing"⟩]⟩
  have hexamine : unreachable.examine loneSource (.ofBytes ⟨"a.c"⟩ [0xFF, 0x0A]) =
      (some report, loneSource.put ["a.i"] (.file [])) :=
    Prod.ext (by decide +kernel) rfl
  have hlog : ((loneSource.put ["a.i"] (.file [])).createLog unreachable.settings.general ⟨"a.c"⟩
      (morning 0)).1 = .ok ⟨⟨"Logs/Logs-a-at-09-05-07-on-04-03-2024.log"⟩,
        ["Logs", "Logs-a-at-09-05-07-on-04-03-2024.log"]⟩ := by rfl
  refine ⟨(run_outcome unreachable loneSource morning ⟨"b.c"⟩).1 _ hbad, ?_⟩
  obtain ⟨outcome, d', hrun, -, hreport, hlogged, hmailed, -, -⟩ :=
    ((run_outcome unreachable loneSource morning ⟨"a.c"⟩).2.1 _ _ _ hload hexamine).2 _ _
      (Prod.ext hlog rfl)
  have hsent : outcome.delivery ≠ .skipped := by
    rw [Ne, hmailed.skipped_iff]
    rintro (h | h) <;> cases h
  obtain ⟨envelope, hmail⟩ := Option.ne_none_iff_exists'.1 fun h =>
    hsent (hmailed.mail_eq_none_iff.1 h)
  obtain ⟨-, -, -, transport, ht, hdelivery⟩ := hmailed.mail_eq_some hmail
  obtain rfl := Option.some.inj ht
  refine ⟨outcome, d', hrun, hdelivery, (hlogged.files _ _).2 (.inl ⟨rfl, ?_⟩),
    (hlogged.files _ _).2 (.inr rfl), (hlogged.files _ _).2 (.inr rfl)⟩
  have htext : LogEntry.written (morning.later 1) report.logged ++ report.loggedSummary ++
      (Delivery.ofAnswer (.error (.delivery "no answer" none))).note
        (morning (report.logged.length + 2)) = unreachableLog := by
    decide +kernel
  rw [Outcome.logText, hdelivery, hreport, ← htext]

/-- **Two files may be new.**  A preprocessor leaves a file behind, and an audit that comes to an
outcome leaves its log beside that. -/
theorem run_outcome_extraFile :
    let tools : Tools := fun disk _ => .ok (⟨.code 0, [], []⟩, disk.put ["extra.log"] (.file []))
    let a := ofSettings { naming := { preprocess := true } } tools ⟨"/tmp"⟩
    let ran := a.run loneSource morning ⟨"a.c"⟩
    let log := ["Logs", "Logs-a-at-09-05-07-on-04-03-2024.log"]
    ran.1.toOption.isSome ∧
      loneSource.root.get? ["extra.log"] = none ∧ loneSource.root.get? log = none ∧
      (ran.2.root.get? ["extra.log"]).isSome ∧ (ran.2.root.get? log).isSome := by
  decide +kernel

end Auditor

end StyleAudit
