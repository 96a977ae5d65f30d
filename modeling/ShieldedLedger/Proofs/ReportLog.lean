import ShieldedLedger.Proofs.Notices
import ShieldedLedger.Proofs.ReportContents

/-!
# What a report tells

While a report is computed, events are told from four places, and some of what they say is said
again by the report: a warning belongs to a notice, a status event to an entry, and the last event
counts them. Nothing in the code ties the two together, since events are told where things happen
and notices and entries are collected and sorted beside them. This file shows that they agree.

The agreement is one of logs and notices, so it can be put together like logs: rule by rule, then
for a classification, then for the transactions of a report one after the other. What is told before
a failure is kept, and after it nothing is told.

## Main definitions

* `Logged.Tells` — what is true of every event that a computation tells
* `Notice.warning?` — the warning that belongs to a notice
* `Accompanies` — some events are about a transaction and warn of its notices
* `Recounts` — some events warn of the notices and tell the entries of a report

## Main results

* `Logged.log_mapM_of_ok`, `Logged.log_mapM_of_error` — what a traversal tells
* `accompanies_decompose`, `accompanies_classifyLogged` — what the rules and a classification tell
* `Bundle.log_reportLogged_of_ok`, `Bundle.log_reportLogged_of_error` — what a report tells
* `Bundle.log_agrees` — the log and the report agree
-/

namespace ShieldedLedger

/-! ### Logs of computations -/

namespace Logged

variable {α β : Type} {f : α → Logged β}

theorem log_bind_of_ok {x : Logged α} {a : α} (h : x.result = .ok a) :
    (x >>= f).log = x.log ++ (f a).log := by
  rw [log_bind, h]

theorem log_bind_of_error {x : Logged α} {e : LedgerError} (h : x.result = .error e) :
    (x >>= f).log = x.log := by
  rw [log_bind, h, List.append_nil]

/-- A traversal that succeeds has told what its steps tell. -/
theorem log_mapM_of_ok {xs : List α} {ys : List β} (h : (xs.mapM f).result = .ok ys) :
    (xs.mapM f).log = xs.flatMap fun x => (f x).log := by
  induction xs generalizing ys with
  | nil => rfl
  | cons x xs ih =>
    rw [result_mapM, List.mapM_cons] at h
    obtain ⟨y, hy, h⟩ := bind_eq_ok_iff.mp h
    obtain ⟨ys', hys', -⟩ := bind_eq_ok_iff.mp h
    rw [← result_mapM] at hys'
    rw [List.mapM_cons, log_bind_of_ok hy, log_bind_of_ok hys', log_pure, List.append_nil, ih hys',
      List.flatMap_cons]

/-- One that fails has told what its steps tell, up to the step that fails. -/
theorem log_mapM_of_error {before after : List α} {x : α} {e : LedgerError}
    (hbefore : ∀ y ∈ before, ∀ e', (f y).result ≠ .error e') (hx : (f x).result = .error e) :
    ((before ++ x :: after).mapM f).log = (before ++ [x]).flatMap fun y => (f y).log := by
  induction before with
  | nil =>
    rw [List.nil_append, List.mapM_cons, log_bind_of_error hx]
    simp
  | cons y before ih =>
    obtain ⟨hy, hbefore⟩ := List.forall_mem_cons.mp hbefore
    have hfails : ((before ++ x :: after).mapM f).result = .error e := by
      rw [result_mapM, mapM_eq_error_iff]
      exact ⟨before, x, after, rfl, hbefore, hx⟩
    cases hok : (f y).result with
    | error e' => exact absurd hok (hy e')
    | ok z =>
      rw [List.cons_append, List.mapM_cons, log_bind_of_ok hok, log_bind_of_error hfails,
        ih hbefore, List.cons_append, List.flatMap_cons]

/-! ### What is true of every event -/

/-- What is true of every event that a computation tells, whether it succeeds or fails. -/
def Tells (x : Logged α) (P : LogEvent → Prop) : Prop := ∀ event ∈ x.log, P event

namespace Tells

variable {P : LogEvent → Prop}

theorem pure (a : α) : Tells (Pure.pure a : Logged α) P := nofun

theorem ofExcept (r : Except LedgerError α) : Tells (Logged.ofExcept r) P := nofun

theorem bind {x : Logged α} (hx : x.Tells P) (hf : ∀ a, (f a).Tells P) : (x >>= f).Tells P := by
  intro event hevent
  rw [log_bind, List.mem_append] at hevent
  rcases hevent with hevent | hevent
  · exact hx event hevent
  · split at hevent
    · exact hf _ event hevent
    · exact absurd hevent List.not_mem_nil

theorem mapM {xs : List α} (hf : ∀ x, (f x).Tells P) : (xs.mapM f).Tells P := by
  induction xs with
  | nil => exact pure []
  | cons x xs ih =>
    rw [List.mapM_cons]
    exact (hf x).bind fun y => ih.bind fun ys => pure (y :: ys)

end Tells

end Logged

/-! ### Events and notices -/

/-- The transaction that an event is about. Only the end of a report is about none. -/
def LogEvent.tx? : LogEvent → Option TxHash
  | notesResolved tx _ | notInvolved tx _ | classifying tx _ _ | severalNotes tx _
  | noPoolRule tx _ | netOnly tx _ | statusDerived tx _ _ _ _ => some tx
  | reportBuilt _ _ _ => none

theorem LogEvent.level_ne_info {event : LogEvent} {tx : TxHash} (h : event.tx? = some tx) :
    event.level ≠ .info := by
  cases event with
  | reportBuilt => cases h
  | _ => simp [level]

/-- The warning that belongs to a notice of a transaction. That nothing is the wallet's is no cause
for a warning. -/
def Notice.warning? (tx : TxHash) : Notice → Option LogEvent
  | degradedToMixed net => some (.netOnly tx net)
  | severalNotes count => some (.severalNotes tx count)
  | notRelevant => none

/-- The warning that belongs to a notice of a report. -/
def TxNotice.warning? (n : TxNotice) : Option LogEvent := n.notice.warning? n.tx

/-- Some events are about a transaction and tell no status; and they warn of its notices, in order,
and of nothing else. -/
structure Accompanies (tx : TxHash) (log : List LogEvent) (notices : List Notice) : Prop where
  about : ∀ event ∈ log, event.tx? = some tx
  no_status : ∀ event ∈ log, event.message ≠ "status updated"
  warnings : log.filter (·.level = .warn) = notices.filterMap (·.warning? tx)

namespace Accompanies

variable {tx : TxHash} {log log' : List LogEvent} {notices notices' : List Notice}

protected theorem nil : Accompanies tx [] [] :=
  ⟨List.forall_mem_nil _, List.forall_mem_nil _, rfl⟩

protected theorem append (h : Accompanies tx log notices) (h' : Accompanies tx log' notices') :
    Accompanies tx (log ++ log') (notices ++ notices') where
  about := List.forall_mem_append.mpr ⟨h.about, h'.about⟩
  no_status := List.forall_mem_append.mpr ⟨h.no_status, h'.no_status⟩
  warnings := by rw [List.filter_append, List.filterMap_append, h.warnings, h'.warnings]

/-- An event that belongs to no notice. -/
theorem singleton (event : LogEvent) (habout : event.tx? = some tx) (hdebug : event.level = .debug)
    (hstatus : event.message ≠ "status updated") : Accompanies tx [event] [] where
  about := List.forall_mem_singleton.mpr habout
  no_status := List.forall_mem_singleton.mpr hstatus
  warnings := by simp [hdebug]

end Accompanies

/-! ### Events and entries -/

/-- What is told about an entry of a report. -/
def ReportEntry.statusEvent (entry : ReportEntry) : LogEvent :=
  .statusDerived entry.record.hash entry.record.index entry.status.state entry.status.depth
    entry.status.tip

/-- Some events warn of the notices of a report, and tell the status of each entry once. -/
structure Recounts (log : List LogEvent) (entries : List ReportEntry) (notices : List TxNotice) :
    Prop where
  warnings : log.filter (·.level = .warn) = notices.filterMap TxNotice.warning?
  statuses : log.filter (·.message = "status updated") = entries.map ReportEntry.statusEvent

theorem Recounts.append {log log' : List LogEvent} {entries entries' : List ReportEntry}
    {notices notices' : List TxNotice} (h : Recounts log entries notices)
    (h' : Recounts log' entries' notices') :
    Recounts (log ++ log') (entries ++ entries') (notices ++ notices') where
  warnings := by rw [List.filter_append, List.filterMap_append, h.warnings, h'.warnings]
  statuses := by rw [List.filter_append, List.map_append, h.statuses, h'.statuses]

/-- A classification recounts no entries yet. -/
theorem Accompanies.recounts {tx : TxHash} {log : List LogEvent} {notices : List Notice}
    (h : Accompanies tx log notices) :
    Recounts log [] (notices.map fun notice => { tx, notice }) where
  warnings := by
    rw [h.warnings, List.filterMap_map]
    rfl
  statuses := by
    rw [List.map_nil, List.filter_eq_nil_iff]
    intro event hevent
    simpa using h.no_status event hevent

/-- The statuses recount entries only. -/
theorem recounts_map_statusEvent (entries : List ReportEntry) :
    Recounts (entries.map ReportEntry.statusEvent) entries [] where
  warnings := by
    rw [List.filterMap_nil, List.filter_eq_nil_iff, List.forall_mem_map]
    simp [ReportEntry.statusEvent, LogEvent.level]
  statuses := by
    rw [List.filter_eq_self, List.forall_mem_map]
    simp [ReportEntry.statusEvent, LogEvent.message]

/-! ### Classifications -/

section Classify

variable (w : WalletView) (p : Params) (tx : Transaction) (t : Totals)

theorem accompanies_noteEvents (count : Nat) :
    Accompanies tx.hash (noteEvents tx.hash count) (noteNotices count) := by
  rw [noteEvents, noteNotices]
  split
  · exact ⟨by simp [LogEvent.tx?], by simp [LogEvent.message], rfl⟩
  · exact .nil

theorem accompanies_transparent :
    Accompanies tx.hash (transparent w tx t).log (transparent w tx t).notices := by
  rw [transparent]
  split_ifs
  · exact .nil
  · exact .nil
  · exact .nil
  · exact ⟨by simp [LogEvent.tx?], by simp [LogEvent.message], rfl⟩

theorem accompanies_unruled :
    Accompanies tx.hash (unruled w tx t).log (unruled w tx t).notices :=
  (Accompanies.singleton (.noPoolRule tx.hash (.of tx)) rfl rfl (by simp [LogEvent.message])).append
    (accompanies_transparent w tx t)

/-- **The rules warn of their notices and of nothing else.** -/
theorem accompanies_decompose (r : Resolution) :
    Accompanies tx.hash (decompose w tx p t r).log (decompose w tx p t r).notices := by
  rw [decompose.eq_def]
  split
  · exact accompanies_transparent w tx t
  · exact accompanies_noteEvents tx _
  · exact accompanies_noteEvents tx _
  · exact accompanies_noteEvents tx _
  · exact accompanies_noteEvents tx _
  · split_ifs
    · exact .nil
    · exact accompanies_unruled w tx t
  · exact .nil
  · exact accompanies_unruled w tx t
  · exact accompanies_unruled w tx t
  · exact accompanies_unruled w tx t

theorem accompanies_events : Accompanies tx.hash (Resolution.events w tx) [] := by
  rw [Resolution.events]
  split
  · exact .nil
  · exact .singleton _ rfl rfl (by simp [LogEvent.message])

variable {w p tx} {c : Classification}

/-- A classification that succeeds warns of its notices and of nothing else. -/
theorem accompanies_classifyLogged (hc : classify w p tx = .ok c) :
    Accompanies tx.hash (classifyLogged w p tx).log c.notices := by
  rw [classify_eq] at hc
  obtain ⟨_, hcheck, hc⟩ := bind_eq_ok_iff.mp hc
  obtain ⟨totals, htotals, rfl⟩ := bind_pure_eq_ok_iff.mp hc
  rw [classifyLogged, Logged.log_bind_of_ok hcheck, Logged.log_bind_of_ok htotals,
    Logged.log_bind_of_ok (Logged.result_tell _), classification]
  refine (accompanies_events w tx).append ?_
  split_ifs
  · have hclassifying : Accompanies tx.hash
        [.classifying tx.hash (.of tx) (Resolution.find w tx).kind] [] :=
      .singleton _ rfl rfl (by simp [LogEvent.message])
    have h := hclassifying.append (accompanies_decompose w p tx totals (.find w tx))
    rwa [← List.append_nil (_ ++ _)] at h
  · have hpassedOver : Accompanies tx.hash [.notInvolved tx.hash (.of tx)] [] :=
      .singleton _ rfl rfl (by simp [LogEvent.message])
    exact hpassedOver.append ⟨List.forall_mem_nil _, List.forall_mem_nil _, rfl⟩

/-- One that fails has told nothing, since the checks come first. -/
theorem log_classifyLogged_of_error {e : LedgerError} (he : classify w p tx = .error e) :
    (classifyLogged w p tx).log = [] := by
  rw [classify_eq] at he
  rcases bind_eq_error_iff.mp he with hcheck | ⟨_, hcheck, he⟩
  · rw [classifyLogged, Logged.log_bind_of_error hcheck, Logged.log_ofExcept]
  · have htotals := bind_pure_eq_error_iff.mp he
    rw [classifyLogged, Logged.log_bind_of_ok hcheck, Logged.log_bind_of_error htotals]
    rfl

end Classify

/-! ### The parts of a report -/

namespace Bundle

variable {b : Bundle} {p : Params} {tx : Transaction}

/-- A record of a transaction with its status, as it is computed with a log. -/
def withStatusLogged (b : Bundle) (p : Params) (tx : Transaction) (record : Record) :
    Logged ReportEntry := do
  let status ← Status.deriveLogged b.chain.view b.relay.view p tx record
  return { record, status }

theorem entriesOf_eq (b : Bundle) (p : Params) (tx : Transaction) :
    b.entriesOf p tx = do
      let c ← classifyLogged b.wallet.view p tx
      let entries ← c.records.mapM (b.withStatusLogged p tx)
      return (entries, c.notices.map fun notice => { tx := tx.hash, notice }) :=
  rfl

theorem result_withStatusLogged (b : Bundle) (p : Params) (tx : Transaction) (r : Record) :
    (b.withStatusLogged p tx r).result = b.withStatus p tx r := by
  rw [withStatusLogged, Logged.result_bind, Status.result_deriveLogged]
  rfl

theorem tells_withStatusLogged (r : Record) :
    (b.withStatusLogged p tx r).Tells (·.tx? = some tx.hash) := by
  refine .bind (.bind (.ofExcept _) fun s => .bind ?_ fun _ => .pure _) fun _ => .pure _
  exact List.forall_mem_singleton.mpr rfl

/-- A status that was derived has been told. -/
theorem log_withStatusLogged {r : Record} {entry : ReportEntry}
    (h : b.withStatus p tx r = .ok entry) (hhash : r.hash = tx.hash) :
    (b.withStatusLogged p tx r).log = [entry.statusEvent] := by
  obtain ⟨rfl, hstatus⟩ := withStatus_eq_ok_iff.mp h
  rw [withStatusLogged, Logged.log_bind_of_ok ((Status.result_deriveLogged ..).trans hstatus),
    Status.deriveLogged, Logged.log_bind_of_ok hstatus, ReportEntry.statusEvent, hhash]
  rfl

theorem log_mapM_withStatusLogged {records : List Record} {entries : List ReportEntry}
    (h : records.mapM (b.withStatus p tx) = .ok entries) (hhash : ∀ r ∈ records, r.hash = tx.hash) :
    (records.mapM (b.withStatusLogged p tx)).log = entries.map (·.statusEvent) := by
  have hresult : (records.mapM (b.withStatusLogged p tx)).result = .ok entries := by
    rw [Logged.result_mapM, ← h]
    exact congrArg (records.mapM ·) (funext (result_withStatusLogged b p tx))
  rw [Logged.log_mapM_of_ok hresult]
  have hall := mapM_eq_ok_iff.mp h
  clear h hresult
  induction hall with
  | nil => rfl
  | cons hentry _ ih =>
    obtain ⟨hr, hhash⟩ := List.forall_mem_cons.mp hhash
    rw [List.flatMap_cons, log_withStatusLogged hentry hr, ih hhash]
    rfl

/-- Whether it succeeds or fails, the part of a transaction tells of that transaction only. -/
theorem tells_entriesOf (b : Bundle) (p : Params) (tx : Transaction) :
    (b.entriesOf p tx).Tells (·.tx? = some tx.hash) := by
  have hclassify : (classifyLogged b.wallet.view p tx).Tells (·.tx? = some tx.hash) := by
    cases hc : classify b.wallet.view p tx with
    | error e =>
      rw [Logged.Tells, log_classifyLogged_of_error hc]
      nofun
    | ok c => exact (accompanies_classifyLogged hc).about
  rw [entriesOf_eq]
  exact hclassify.bind fun c => .bind (.mapM tells_withStatusLogged) fun entries => .pure _

theorem recounts_entriesOf {part : List ReportEntry × List TxNotice}
    (h : b.partOf p tx = .ok part) : Recounts (b.entriesOf p tx).log part.1 part.2 := by
  obtain ⟨c, hc, hentries, hnotices⟩ := partOf_eq_ok_iff.mp h
  have hhash : ∀ r ∈ c.records, r.hash = tx.hash := by
    obtain ⟨ms, hms⟩ := exists_ofMovements_of_classify hc
    rw [hms]
    exact fun r hr => (Record.of_mem_ofMovements hr).1
  have hresult : (c.records.mapM (b.withStatusLogged p tx)).result = .ok part.1 := by
    rw [Logged.result_mapM, ← hentries]
    exact congrArg (c.records.mapM ·) (funext (result_withStatusLogged b p tx))
  rw [entriesOf_eq, Logged.log_bind_of_ok hc, Logged.log_bind_of_ok hresult, Logged.log_pure,
    List.append_nil, log_mapM_withStatusLogged hentries hhash, hnotices]
  have hclassify := (accompanies_classifyLogged hc).recounts
  have h := hclassify.append (recounts_map_statusEvent part.1)
  rwa [List.nil_append, List.append_nil] at h

/-! ### The whole report -/

/-- What is told while some parts of a report are computed. -/
def partsLog (b : Bundle) (p : Params) (txs : List Transaction) : List LogEvent :=
  txs.flatMap fun tx => (b.entriesOf p tx).log

theorem recounts_partsLog {txs : List Transaction} {parts : List (List ReportEntry × List TxNotice)}
    (h : txs.mapM (b.partOf p) = .ok parts) :
    Recounts (b.partsLog p txs) (parts.flatMap (·.1)) (parts.flatMap (·.2)) := by
  have hall := mapM_eq_ok_iff.mp h
  clear h
  induction hall with
  | nil => exact ⟨rfl, rfl⟩
  | cons hpart _ ih => exact (recounts_entriesOf hpart).append ih

theorem level_ne_info_of_mem_partsLog {txs : List Transaction} {event : LogEvent}
    (h : event ∈ b.partsLog p txs) : event.level ≠ .info := by
  obtain ⟨tx, _, hevent⟩ := List.mem_flatMap.mp h
  exact LogEvent.level_ne_info (tells_entriesOf b p tx event hevent)

/-- What is hidden is a block reward outside the best chain. -/
theorem hiddenCount_eq (b : Bundle) :
    b.hiddenCount =
      b.transactions.countP fun tx => tx.isCoinbase && !b.chain.view.inBestChain tx := by
  have hshows : (fun tx => !b.chain.view.shows tx) =
      fun tx => tx.isCoinbase && !b.chain.view.inBestChain tx := by
    funext tx
    rw [ChainView.shows, Bool.not_or, Bool.not_not]
  rw [hiddenCount, hshows]

/-- A report that succeeds has told its parts, and then that it is finished. -/
theorem log_reportLogged_of_ok {r : Report} (h : b.report p = .ok r) :
    (b.reportLogged p).log = b.partsLog p b.shown ++
      [.reportBuilt b.transactions.length r.entries.length b.hiddenCount] := by
  obtain ⟨parts, hparts, hentries, -⟩ := report_eq_ok_iff.mp h
  have hresult : (b.shown.mapM (b.entriesOf p)).result = .ok parts := by
    rw [Logged.result_mapM, ← hparts]
    exact congrArg (b.shown.mapM ·) (funext (result_entriesOf b p))
  rw [reportLogged, Logged.log_bind_of_ok hresult, Logged.log_mapM_of_ok hresult, hentries]
  rfl

/-- One that fails has told its parts up to the one that fails. -/
theorem log_reportLogged_of_error {before after : List Transaction} {e : LedgerError}
    (hshown : b.shown = before ++ tx :: after)
    (hbefore : ∀ t ∈ before, ∀ e', b.partOf p t ≠ .error e') (he : b.partOf p tx = .error e) :
    (b.reportLogged p).log = b.partsLog p (before ++ [tx]) := by
  have hresult : (b.shown.mapM (b.entriesOf p)).result = .error e := by
    rw [Logged.result_mapM, mapM_eq_error_iff]
    simp only [result_entriesOf, ne_eq]
    exact ⟨before, tx, after, hshown, hbefore, he⟩
  rw [reportLogged, Logged.log_bind_of_error hresult, hshown]
  refine Logged.log_mapM_of_error (fun t ht e' => ?_) ((result_entriesOf b p tx).trans he)
  rw [result_entriesOf]
  exact hbefore t ht e'

/-- **The log agrees with the report.** The report succeeds exactly if it is told that it is
finished, which is then told once, at the end, and with the counts of the report, each of them under
its name. In that case there is one warning for each notice that deserves one, and one status for
each entry. If the report fails, what was told comes from the transactions up to the one that
fails. -/
theorem log_agrees (b : Bundle) (p : Params) :
    ((∃ r, b.report p = .ok r) ↔ ∃ event ∈ (b.reportLogged p).log, event.level = .info) ∧
    (∀ r, b.report p = .ok r → ∃ told last,
      (b.reportLogged p).log = told ++ [last] ∧
      last = .reportBuilt b.transactions.length r.entries.length
        (b.transactions.countP fun tx => tx.isCoinbase && !b.chain.view.inBestChain tx) ∧
      last.fields =
        [("transactions", Decimal.ofNat b.transactions.length),
          ("records", Decimal.ofNat r.entries.length),
          ("hidden", Decimal.ofNat
            (b.transactions.countP fun tx => tx.isCoinbase && !b.chain.view.inBestChain tx))] ∧
      (∀ event ∈ told, event.level ≠ .info) ∧
      told.filter (·.level = .warn) = r.notices.filterMap TxNotice.warning? ∧
      (told.filter (·.message = "status updated")).Perm (r.entries.map (·.statusEvent))) ∧
    (∀ e, b.report p = .error e → ∃ before tx after,
      b.shown = before ++ tx :: after ∧ b.partOf p tx = .error e ∧
      (∀ t ∈ before, ∀ e', b.partOf p t ≠ .error e') ∧
      (b.reportLogged p).log = (before ++ [tx]).flatMap fun t => (b.entriesOf p t).log) ∧
    (∀ tx, ∀ event ∈ (b.entriesOf p tx).log, event.tx? = some tx.hash) := by
  have hfails : ∀ e, b.report p = .error e → ∃ before tx after,
      b.shown = before ++ tx :: after ∧ b.partOf p tx = .error e ∧
        (∀ t ∈ before, ∀ e', b.partOf p t ≠ .error e') ∧
        (b.reportLogged p).log = b.partsLog p (before ++ [tx]) := by
    intro e he
    rw [report_eq_error_iff, mapM_eq_error_iff] at he
    obtain ⟨before, tx, after, hshown, hbefore, he⟩ := he
    exact ⟨before, tx, after, hshown, he, hbefore, log_reportLogged_of_error hshown hbefore he⟩
  refine ⟨⟨?_, ?_⟩, ?_, hfails, tells_entriesOf b p⟩
  · rintro ⟨r, hr⟩
    rw [log_reportLogged_of_ok hr]
    exact ⟨_, List.mem_append_right _ List.mem_cons_self, rfl⟩
  · rintro ⟨event, hevent, hinfo⟩
    cases hr : b.report p with
    | ok r => exact ⟨r, rfl⟩
    | error e =>
      obtain ⟨before, tx, after, -, -, -, hlog⟩ := hfails e hr
      rw [hlog] at hevent
      exact absurd hinfo (level_ne_info_of_mem_partsLog hevent)
  · intro r hr
    obtain ⟨parts, hparts, hentries, hnotices⟩ := report_eq_ok_iff.mp hr
    have hrecounts := recounts_partsLog hparts
    refine ⟨b.partsLog p b.shown, _, ?_, rfl, rfl, fun event => level_ne_info_of_mem_partsLog,
      ?_, ?_⟩
    · rw [log_reportLogged_of_ok hr, hiddenCount_eq]
    · rw [hrecounts.warnings, hnotices]
    · rw [hrecounts.statuses, hentries]
      exact ((newestFirst_stableDescending _).perm.map (·.statusEvent)).symm

/-- A wallet with a joint payment, and with a block reward that is hidden. -/
def sampleJoint : Bundle where
  params? := none
  chain := .atHeight 10
  wallet := .sampleContributor
  relay := .atTime 0
  transactions :=
    [.sampleJoint, { Transaction.blank ⟨List.replicate 32 23, rfl⟩ 0 with isCoinbase := true }]

/-- Of the two transactions one is hidden, and the other is told by its net. -/
theorem log_agrees_sampleJoint :
    ∃ r told last, sampleJoint.report .standard = .ok r ∧
      (sampleJoint.reportLogged .standard).log = told ++ [last] ∧
      last = .reportBuilt 2 1 1 ∧
      last.fields = [("transactions", "2"), ("records", "1"), ("hidden", "1")] ∧
      told.filter (·.level = .warn) = [.netOnly Transaction.sampleJoint.hash (-100)] := by
  have h : sampleJoint.report .standard = .ok ⟨newestFirst _, _⟩ :=
    report_eq_ok_iff.mpr ⟨_, rfl, rfl, rfl⟩
  obtain ⟨told, last, hlog, hlast, hfields, -, hwarnings, -⟩ :=
    (log_agrees sampleJoint .standard).2.1 _ h
  rw [(newestFirst_stableDescending _).perm.length_eq] at hlast hfields
  exact ⟨_, told, last, h, hlog, hlast, hfields, hwarnings⟩

end Bundle

end ShieldedLedger
