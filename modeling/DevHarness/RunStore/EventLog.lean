import DevHarness.Text.PyDumps
import DevHarness.Text.PyLines

/-!
# The event log of a run

`append_event` numbers an event by counting the lines of `events.jsonl` and appends it as a line,
all of it under the lock of the file.  A writer that crashes leaves a part of its line, and the
next event is appended to that part.
-/

namespace DevHarness.RunStore

open JsText PyText

/-- What a call is given, and the identifier and the time that it draws. -/
structure EventCall where
  eventId : PyString
  timestamp : PyString
  level : PyString
  phase : PyString
  taskId : PyString
  message : PyString
  artifact : PyString
  observability : List (Value × Value)
  extra : List (Value × Value)

def event (call : EventCall) (sequence : ℕ) : Value :=
  .dict ([(.str (py "schema_version"), .str (py "autodev.run-event.v1")),
    (.str (py "event_id"), .str call.eventId),
    (.str (py "timestamp"), .str call.timestamp),
    (.str (py "level"), .str call.level),
    (.str (py "phase"), .str call.phase),
    (.str (py "task_id"), .str call.taskId),
    (.str (py "message"), .str call.message),
    (.str (py "artifact"), .str call.artifact)] ++
    (if call.observability = [] then []
      else [(.str (py "observability"), .dict call.observability)]) ++
    (if call.extra = [] then [] else [(.str (py "extra"), .dict call.extra)]) ++
    [(.str (py "sequence"), .int sequence)])

def isSurrogate (c : CodePoint) : Bool := 0xD800 ≤ c && c ≤ 0xDFFF

/-- The line of an event, without its end; `none` is the error of an event that cannot be
printed or encoded. -/
def eventLine (call : EventCall) (sequence : ℕ) : Option PyString :=
  (dumps (event call sequence)).filter fun text => !text.any isSurrogate

/-- `events.jsonl`, which reads as empty where it does not exist.  It may end inside the octets
of a code point. -/
structure EventFile where
  text : PyString
  cut : Bool

def nextSequence (text : PyString) : ℕ :=
  1 + ((universalNewlines text).splitOn 0x0A).countP fun line => strip line ≠ []

/-- A call of `append_event` that completes, or whose writer crashes when it has written some code
points of its line, and perhaps a part of the next one. -/
inductive Write
  | completes (call : EventCall)
  | crashes (call : EventCall) (written : ℕ) (cut : Bool)

/-- The file, and what the completed calls have returned: each its own event, with the number
that it was given. -/
structure Log where
  file : EventFile
  returned : List (EventCall × ℕ)

def Log.empty : Log := { file := { text := [], cut := false }, returned := [] }

def appendEvent (log : Log) : Write → Option Log
  | .completes call =>
    if log.file.cut then none
    else
      let sequence := nextSequence log.file.text
      (eventLine call sequence).map fun line =>
        { file := { text := log.file.text ++ line ++ [0x0A], cut := false }
          returned := log.returned ++ [(call, sequence)] }
  | .crashes call written cut =>
    if log.file.cut then some log
    else
      match eventLine call (nextSequence log.file.text) with
      | none => some log
      | some line =>
        if written ≤ line.length then
          some { log with
            file.text := log.file.text ++ line.take written
            file.cut := cut && (line)[written]?.any (0x80 ≤ ·) }
        else none

def history (writes : List Write) : Option Log :=
  writes.foldlM appendEvent .empty

def endedLines (text : PyString) : List PyString :=
  ((universalNewlines text).splitOn 0x0A).dropLast

/-- The numbers of the returned events increase, and each of these events has a line of its own. -/
structure Survives (log : Log) : Prop where
  increasing : (log.returned.map Prod.snd).Pairwise (· < ·)
  recoverable : (log.returned.map fun returned => eventLine returned.1 returned.2).Sublist
    ((endedLines log.file.text).map some)

def EndsLine (text : PyString) : Prop := ∀ c, text.getLast? = some c → c = 0x0A

/-- Whenever a call completes, the file that it finds ends with a line. -/
def OnWholeLines (writes : List Write) : Prop :=
  ∀ before call, before ++ [.completes call] <+: writes →
    ∀ log, history before = some log → EndsLine log.file.text

variable {pieces : List PyString} {call : EventCall}

section Lines

variable {text line tail : PyString} {sequence : ℕ}

theorem not_mem_of_printable {c : CodePoint} (h : Printable text) (hc : c < 0x20) : c ∉ text :=
  fun hmem => absurd (h c hmem) (Nat.not_le.mpr hc)

theorem printable_eventLine (h : eventLine call sequence = some line) : Printable line :=
  printable_dumps (Option.filter_eq_some_iff.mp h).1

theorem brace_mem_eventLine (h : eventLine call sequence = some line) : 0x7B ∈ line := by
  have hdumps := (Option.filter_eq_some_iff.mp h).1
  rw [event, dumps] at hdumps
  obtain ⟨texts, -, rfl⟩ := Option.map_eq_some_iff.mp hdumps
  exact List.mem_cons_self

/-- A text in pieces that end, and what follows the last end. -/
structure Layout (text : PyString) (pieces : List PyString) (tail : PyString) : Prop where
  text_eq : text = pieces.flatMap (· ++ [0x0A]) ++ tail
  pieces_printable : ∀ piece ∈ pieces, Printable piece
  tail_printable : Printable tail

section

variable (h : Layout text pieces tail)

include h

theorem Layout.splitOn_eq : (universalNewlines text).splitOn 0x0A = pieces ++ [tail] := by
  have hfeed : 0x0A ∉ tail := not_mem_of_printable h.tail_printable (by decide)
  have hreturn : 0x0D ∉ text := by
    rw [h.text_eq, List.mem_append, List.mem_flatMap, not_or]
    refine ⟨?_, not_mem_of_printable h.tail_printable (by decide)⟩
    rintro ⟨piece, hpiece, hmem⟩
    rcases List.mem_append.mp hmem with hin | hend
    · exact not_mem_of_printable (h.pieces_printable piece hpiece) (by decide) hin
    · cases List.mem_singleton.mp hend
  have hpieces := h.pieces_printable
  rw [universalNewlines_eq_self hreturn, h.text_eq]
  clear h hreturn
  induction pieces with
  | nil => exact List.splitOn_eq_singleton hfeed
  | cons piece pieces ih =>
      have hpiece : 0x0A ∉ piece :=
        not_mem_of_printable (hpieces piece List.mem_cons_self) (by decide)
      have hrest := ih fun p hp => hpieces p (List.mem_cons_of_mem _ hp)
      rw [List.flatMap_cons, List.append_assoc, List.append_assoc, List.singleton_append,
        List.splitOn_append_cons_self_of_not_mem hpiece, hrest, List.cons_append]

theorem Layout.endedLines_eq : endedLines text = pieces := by
  rw [endedLines, h.splitOn_eq, List.dropLast_concat]

/-- A file ends with a line when nothing follows the last end. -/
theorem Layout.endsLine_iff : EndsLine text ↔ tail = [] := by
  unfold EndsLine
  rw [h.text_eq]
  constructor
  · intro hends
    by_contra hne
    have hlast := List.getLast_mem hne
    have hfeed : tail.getLast hne = 0x0A := by
      apply hends
      rw [List.getLast?_append_of_ne_nil _ hne, List.getLast?_eq_some_getLast hne]
    exact not_mem_of_printable h.tail_printable (by decide) (hfeed ▸ hlast)
  · rintro rfl c hc
    rw [List.append_nil] at hc
    rcases List.eq_nil_or_concat' pieces with rfl | ⟨init, piece, rfl⟩
    · cases hc
    · rw [List.flatMap_append, List.flatMap_singleton, ← List.append_assoc,
        List.getLast?_concat] at hc
      exact (Option.some.inj hc).symm

theorem Layout.write (hline : Printable line) :
    Layout (text ++ line) pieces (tail ++ line) where
  text_eq := by rw [h.text_eq, List.append_assoc]
  pieces_printable := h.pieces_printable
  tail_printable := h.tail_printable.append hline

theorem Layout.end :
    Layout (text ++ [0x0A]) (pieces ++ [tail]) [] where
  text_eq := by simp [h.text_eq]
  pieces_printable := by
    intro piece hpiece
    rcases List.mem_append.mp hpiece with hold | hnew
    · exact h.pieces_printable piece hold
    · exact List.mem_singleton.mp hnew ▸ h.tail_printable
  tail_printable := fun _ hc => absurd hc List.not_mem_nil

end

/-- Where every line is an event, the next number is the number of the line. -/
theorem Layout.nextSequence_eq (h : Layout text pieces []) (hevents : ∀ piece ∈ pieces, 0x7B ∈ piece) :
    nextSequence text = 1 + pieces.length := by
  have hcount : pieces.countP (fun line => strip line ≠ []) = pieces.length := by
    rw [List.countP_eq_length]
    intro piece hpiece
    exact decide_eq_true (Strip.strip_ne_nil_iff.mpr ⟨0x7B, hevents piece hpiece, by decide⟩)
  rw [nextSequence, h.splitOn_eq, List.countP_append, hcount]
  rfl

end Lines

section Histories

variable {writes : List Write} {log log' : Log} {write : Write}

theorem onWholeLines_concat : OnWholeLines (writes ++ [write]) ↔ OnWholeLines writes ∧
    ∀ call, write = .completes call → ∀ log, history writes = some log →
      EndsLine log.file.text := by
  unfold OnWholeLines
  simp only [List.prefix_concat_iff]
  constructor
  · intro h
    refine ⟨fun before call hprefix => h before call (.inr hprefix), ?_⟩
    rintro call rfl
    exact h writes call (.inl rfl)
  · rintro ⟨hold, hlast⟩ before call (heq | hprefix)
    · obtain ⟨rfl, hwrite⟩ := List.append_inj' heq rfl
      exact hlast call (List.cons.inj hwrite).1.symm
    · exact hold before call hprefix

theorem history_concat : history (writes ++ [write]) = (history writes).bind (appendEvent · write) := by
  rw [history, List.foldlM_append]
  simp [history]

/-- What a history has made of the file: a line for each returned event, which begins with what
crashed writers have left. -/
structure Recorded (writes : List Write) (log : Log) (pieces : List PyString) : Prop where
  layout : ∃ tail, Layout log.file.text pieces tail
  events : ∀ piece ∈ pieces, 0x7B ∈ piece
  length_eq : pieces.length = log.returned.length
  own_iff : pieces.map some = log.returned.map (fun returned => eventLine returned.1 returned.2) ↔
    OnWholeLines writes
  numbered : OnWholeLines writes → log.returned.map Prod.snd = List.range' 1 pieces.length

theorem Recorded.crashes {written : ℕ} {cut : Bool} (h : Recorded writes log pieces)
    (hstep : appendEvent log (.crashes call written cut) = some log') :
    Recorded (writes ++ [.crashes call written cut]) log' pieces := by
  have hwhole : OnWholeLines (writes ++ [.crashes call written cut]) ↔ OnWholeLines writes := by
    rw [onWholeLines_concat]
    exact and_iff_left nofun
  have hreturned : log'.returned = log.returned ∧
      ∃ tail, Layout log'.file.text pieces tail := by
    simp only [appendEvent] at hstep
    split at hstep
    · obtain rfl := Option.some.inj hstep
      exact ⟨rfl, h.layout⟩
    · split at hstep
      · obtain rfl := Option.some.inj hstep
        exact ⟨rfl, h.layout⟩
      · next line hline =>
        split at hstep
        · obtain rfl := Option.some.inj hstep
          obtain ⟨tail, hlayout⟩ := h.layout
          refine ⟨rfl, _, hlayout.write fun c hc => ?_⟩
          exact printable_eventLine hline c (List.mem_of_mem_take hc)
        · cases hstep
  obtain ⟨hreturned, hlayout⟩ := hreturned
  exact ⟨hlayout, h.events, hreturned ▸ h.length_eq, by rw [hwhole, hreturned, h.own_iff],
    fun hw => hreturned ▸ h.numbered (hwhole.mp hw)⟩

theorem Recorded.completes (h : Recorded writes log pieces) (hhistory : history writes = some log)
    (hstep : appendEvent log (.completes call) = some log') :
    ∃ pieces', Recorded (writes ++ [.completes call]) log' pieces' := by
  obtain ⟨tail, hlayout⟩ := h.layout
  simp only [appendEvent] at hstep
  split at hstep
  · cases hstep
  obtain ⟨line, hline, rfl⟩ := Option.map_eq_some_iff.mp hstep
  have hwhole : OnWholeLines (writes ++ [.completes call]) ↔ OnWholeLines writes ∧ tail = [] := by
    rw [onWholeLines_concat, ← hlayout.endsLine_iff]
    refine and_congr_right fun _ => ⟨fun hlast => hlast call rfl log hhistory, ?_⟩
    rintro hends _ - log₀ hlog₀
    obtain rfl := Option.some.inj (hhistory.symm.trans hlog₀)
    exact hends
  refine ⟨pieces ++ [tail ++ line], ⟨_, (hlayout.write (printable_eventLine hline)).end⟩, ?_, ?_,
    ?_, ?_⟩
  · intro piece hpiece
    rcases List.mem_append.mp hpiece with hold | hnew
    · exact h.events piece hold
    · obtain rfl := List.mem_singleton.mp hnew
      exact List.mem_append_right _ (brace_mem_eventLine hline)
  · simp [h.length_eq]
  · -- The new line is the event alone when nothing was left before it.
    have hlength : (pieces.map some).length =
        (log.returned.map fun returned => eventLine returned.1 returned.2).length := by
      simp [h.length_eq]
    rw [hwhole, ← h.own_iff, List.map_append, List.map_append]
    constructor
    · intro heq
      obtain ⟨hold, hnew⟩ := List.append_inj heq hlength
      have hsame := Option.some.inj ((List.cons.inj hnew).1.trans hline)
      exact ⟨hold, List.append_left_eq_self.mp hsame⟩
    · rintro ⟨hold, rfl⟩
      rw [hold, List.map_singleton, List.map_singleton, hline, List.nil_append]
  · intro hw
    obtain ⟨hold, rfl⟩ := hwhole.mp hw
    rw [List.map_append, h.numbered hold, List.length_append, List.length_singleton,
      List.range'_concat, List.map_singleton, hlayout.nextSequence_eq h.events, Nat.one_mul]

theorem exists_recorded (h : history writes = some log) : ∃ pieces, Recorded writes log pieces := by
  induction writes using List.reverseRecOn generalizing log with
  | nil =>
      obtain rfl := Option.some.inj h
      have hnone : OnWholeLines [] := by
        intro before call hprefix
        have hlength := hprefix.length_le
        simp at hlength
      refine ⟨[], ⟨[], rfl, nofun, nofun⟩, nofun, rfl, iff_of_true rfl hnone, fun _ => rfl⟩
  | append_singleton writes write ih =>
      rw [history_concat] at h
      obtain ⟨before, hbefore, hstep⟩ := Option.bind_eq_some_iff.mp h
      obtain ⟨pieces, hrecorded⟩ := ih hbefore
      cases write with
      | completes call => exact hrecorded.completes hbefore hstep
      | crashes call written cut => exact ⟨pieces, hrecorded.crashes hstep⟩

/-- The log survives exactly the histories in which no call completes on a torn line. -/
theorem survives_iff_onWholeLines (h : history writes = some log) :
    Survives log ↔ OnWholeLines writes := by
  obtain ⟨pieces, hrecorded⟩ := exists_recorded h
  obtain ⟨tail, hlayout⟩ := hrecorded.layout
  constructor
  · intro hsurvives
    have hsublist := hsurvives.recoverable
    rw [hlayout.endedLines_eq] at hsublist
    refine hrecorded.own_iff.mp (hsublist.eq_of_length ?_).symm
    simp [hrecorded.length_eq]
  · intro hwhole
    constructor
    · rw [hrecorded.numbered hwhole]
      exact List.pairwise_lt_range'
    · rw [hlayout.endedLines_eq, hrecorded.own_iff.mpr hwhole]

end Histories

/-- A call that reports `message`. -/
def reporting (eventId message : String) : EventCall where
  eventId := py eventId
  timestamp := py "2026-01-01T00:00:00Z"
  level := py "info"
  phase := py "builder"
  taskId := []
  message := py message
  artifact := []
  observability := []
  extra := []

/-- The first writer crashes when it has written the opening brace. -/
def afterTornLine : List Write :=
  [.crashes (reporting "run:a" "started") 1 false, .completes (reporting "run:b" "built"),
    .completes (reporting "run:c" "verified")]

/-- Both calls that complete after the crash return the number 2. -/
theorem numbers_afterTornLine :
    (history afterTornLine).map (fun log => log.returned.map Prod.snd) = some [2, 2] := by
  decide +kernel

theorem survives_iff_afterTornLine :
    ∃ log, history afterTornLine = some log ∧ (Survives log ↔ OnWholeLines afterTornLine) := by
  obtain ⟨log, hlog, -⟩ := Option.map_eq_some_iff.mp numbers_afterTornLine
  exact ⟨log, hlog, survives_iff_onWholeLines hlog⟩

theorem not_survives_afterTornLine :
    ∃ log, history afterTornLine = some log ∧ ¬ Survives log := by
  obtain ⟨log, hlog, hnumbers⟩ := Option.map_eq_some_iff.mp numbers_afterTornLine
  refine ⟨log, hlog, fun hsurvives => ?_⟩
  have hincreasing := hsurvives.increasing
  rw [hnumbers] at hincreasing
  exact absurd hincreasing (by decide)

end DevHarness.RunStore
