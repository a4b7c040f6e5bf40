import CaptureForest.Log.Logger
import CaptureForest.Log.Timer
import CaptureForest.Proofs.AttributeOrder
import CaptureForest.Proofs.Presorting
import CaptureForest.Proofs.Signals

/-!
# Timing and outcomes

Timing an operation is meant to hand its outcome on: what it returns after one record of
its time, a failure after one record of its time and one of the failure.  The fields of
the operation go to the makers of these records, which have names of their own for what
they are given besides.  A field under such a name is refused, by a fault of the type or
by one of the key, and the refusal takes the place of the outcome.

Which records are made is seen in a journal, which keeps beside the loggers all records
that they made.  An operation may do anything to a journal, so the records of the timer
are those that come after the journal that the operation leaves.
-/

namespace CaptureForest

/-! ### Names of fields -/

namespace Pairs

theorem namesAny_nil (pairs : Pairs) : namesAny [] pairs = false := by
  have hamong : ∀ k : Value, k.isAmong [] = false := by
    intro k
    unfold Value.isAmong
    cases k.text? <;> rfl
  simp [namesAny, hamong]

theorem namesAny_append (words others : List String) (pairs : Pairs) :
    namesAny (words ++ others) pairs = (namesAny words pairs || namesAny others pairs) := by
  have hamong : ∀ k : Value, k.isAmong (words ++ others) = (k.isAmong words || k.isAmong others) := by
    intro k
    unfold Value.isAmong
    cases k.text? <;> simp
  rw [Bool.eq_iff_iff]
  simp [namesAny, hamong, and_or_left, exists_or]

theorem checkNames_eq {fields : Pairs} (h : ∀ k ∈ keys fields, k.isText = true)
    (taken : List String) :
    checkNames taken fields = if namesAny taken fields then .error .wrongType else .ok () := by
  have hall : (keys fields).all (fun k => k.isText && !k.isAmong taken) = !namesAny taken fields := by
    rw [namesAny, Bool.eq_iff_iff]
    simp +contextual [h]
  rw [checkNames, hall]
  cases namesAny taken fields <;> rfl

theorem all_keys_insert {p : Value → Bool} (hp : ∀ {k l : Value}, k.same l = true → p k = p l)
    (key v : Value) (pairs : Pairs) :
    (keys (insert key v pairs)).all p = (p key && (keys pairs).all p) := by
  rw [keys_insert]
  split
  · rename_i hany
    obtain ⟨k, hk, hsame⟩ := List.any_eq_true.mp hany
    cases hall : (keys pairs).all p with
    | false => simp
    | true => simp [← hp hsame, List.all_eq_true.mp hall k hk]
  · simp [Bool.and_comm]

theorem checkNames_update (taken : List String) (pairs changes : Pairs) :
    checkNames taken (update pairs changes) =
      (checkNames taken pairs).bind fun _ => checkNames taken changes := by
  have hsame : ∀ {k l : Value}, k.same l = true →
      (k.isText && !k.isAmong taken) = (l.isText && !l.isAmong taken) := by
    intro k l h
    rw [Value.isText, Value.isText, Value.text?_of_same h, Value.isAmong_of_same h]
  have hall : (keys (update pairs changes)).all (fun k => k.isText && !k.isAmong taken) =
      ((keys pairs).all (fun k => k.isText && !k.isAmong taken) &&
        (keys changes).all fun k => k.isText && !k.isAmong taken) := by
    unfold update
    induction changes generalizing pairs with
    | nil => simp [keys]
    | cons change rest ih =>
        rw [List.foldl_cons, ih, all_keys_insert hsame]
        simp [keys, Bool.and_assoc, Bool.and_left_comm]
  simp only [checkNames, hall]
  cases (keys pairs).all fun k => k.isText && !k.isAmong taken <;> rfl

/-- Of what is given under a word, the last counts. -/
theorem lookup?_update_fields (word : String) (pairs : Pairs) (entries : List (String × Value)) :
    lookup? word (update pairs (fields entries)) =
      (entries.reverse.lookup word).or (lookup? word pairs) := by
  unfold update fields
  induction entries generalizing pairs with
  | nil => rfl
  | cons entry rest ih =>
      obtain ⟨other, v⟩ := entry
      rw [List.map_cons, List.foldl_cons, ih, lookup?_insert_str, List.reverse_cons,
        List.lookup_append]
      cases rest.reverse.lookup word with
      | some w => rfl
      | none =>
          rw [Option.none_or, List.lookup_cons]
          by_cases h : other = word
          · simp [h]
          · have hword : (word == other) = false := beq_eq_false_iff_ne.mpr (Ne.symm h)
            simp [h, hword]

end Pairs

namespace Effect

variable {σ α : Type} {x : Effect σ α} {s t : σ}

theorem tryCatch_of_ok {a : α} (h : x s = (.ok a, t)) (handler : Fault → Effect σ α) :
    tryCatch x handler s = (.ok a, t) := by
  simp only [tryCatch, tryCatchThe, MonadExceptOf.tryCatch, ExceptT.tryCatch, ExceptT.mk, bind,
    StateT.bind, h]
  rfl

theorem tryCatch_of_error {e : Fault} (h : x s = (.error e, t)) (handler : Fault → Effect σ α) :
    tryCatch x handler s = handler e t := by
  simp only [tryCatch, tryCatchThe, MonadExceptOf.tryCatch, ExceptT.tryCatch, ExceptT.mk, bind,
    StateT.bind, h]

end Effect

/-! ### Entries -/

namespace LogEntry

structure IsStart (operation : String) (e : LogEntry) : Prop where
  channel : e.channel = .general
  level : e.level = .debug
  message : e.message = "Starting " ++ operation

/-- The entry tells how an operation ended and how many milliseconds it took. -/
structure IsTime (operation status : String) (elapsed : Binary64) (e : LogEntry) : Prop where
  channel : e.channel = .timing
  level : e.level = .info
  message : e.message = operation ++ " " ++ status ++ " in " ++ elapsed.styledText .fixed 2 false ++ "ms"
  operation : Pairs.lookup? "operation" e.fields = some (.str operation)
  duration : Pairs.lookup? "duration_ms" e.fields = some (.float (elapsed.roundPlaces 3))
  status : Pairs.lookup? "status" e.fields = some (.str status)

/-- The entry tells that an operation failed, with the type and the text of its fault. -/
structure IsFailure (operation : String) (f : Fault) (e : LogEntry) : Prop where
  channel : e.channel = .errors
  level : e.level = .error
  message : e.message = operation ++ " failed"
  type : Pairs.lookup? "error_type" e.fields = some (.str f.kindName)
  text : Pairs.lookup? "error_message" e.fields = some (.str f.text)

/-- Fields cannot hide the type and the text of a fault. -/
theorem lookup?_withError (id : String) (fields : Pairs) (f : Fault) :
    Pairs.lookup? "error_type" (withError id fields f) = some (.str f.kindName) ∧
      Pairs.lookup? "error_message" (withError id fields f) = some (.str f.text) := by
  -- what else is known of an error of this library comes under other names
  have hkept : ∀ word ∈ ["error_type", "error_message"], ∀ pairs,
      Pairs.lookup? word (Pairs.update pairs (errorFields id f)) = Pairs.lookup? word pairs := by
    intro word hword pairs
    cases f with
    | host e => rfl
    | capture e =>
        rw [errorFields, Pairs.lookup?_update_fields]
        rcases List.mem_pair.mp hword with rfl | rfl <;> rfl
  constructor
  all_goals
    rw [withError, hkept _ (by simp), Pairs.lookup?_update_fields]
    rfl

/-- How an entry with a property is made: it is refused exactly if a name is taken. -/
inductive IsMade (P : LogEntry → Prop) (refusal : Fault) : Bool → Except Fault LogEntry → Prop
  | refused : IsMade P refusal true (.error refusal)
  | made {e : LogEntry} (h : P e) : IsMade P refusal false (.ok e)

end LogEntry

namespace Timer

open LogEntry

/-- The names that the makers of the last records have for what they are given besides the
fields, where an operation ends so. -/
def takenAfter {α : Type} : Except Fault α → List String
  | .ok _ => ["duration_ms", "status"]
  | .error f => if isInterrupt f then [] else ["duration_ms", "status", "error"]

/-- The fault with which those makers refuse fields: one of the type, unless only the name
of the error is taken. -/
def refusal (fields : Pairs) : Fault :=
  if Pairs.namesAny ["duration_ms", "status"] fields then .wrongType else errorTaken

/-- The entry with which an operation announces itself, if its fields may be named as they
are. -/
def opening (operation : String) (fields : Pairs) : Except Fault LogEntry :=
  (Pairs.checkNames ownNames fields).bind fun _ => start operation fields

variable {σ α : Type} {t : Timer σ} {operation : String} {fields : Pairs} {body : Effect σ α}
  {s s' : σ}

section Fields

variable (hnames : ∀ k ∈ Pairs.keys fields, k.isText = true ∧ k.isAmong ownNames = false)

include hnames

/-- The names that no field has may be taken beside others. -/
theorem checkNames_append {own : List String} (words : List String) (hown : own ⊆ ownNames) :
    Pairs.checkNames (own ++ words) fields =
      if Pairs.namesAny words fields then .error .wrongType else .ok () := by
  have hnone : Pairs.namesAny own fields = false := by
    simp only [Pairs.namesAny, List.any_eq_false, Bool.not_eq_true]
    intro k hk
    have hk := (hnames k hk).2
    unfold Value.isAmong at hk ⊢
    cases htext : k.text? with
    | none => rfl
    | some word =>
        rw [htext, Option.any_some, List.contains_eq_mem, decide_eq_false_iff_not] at hk
        rw [Option.any_some, List.contains_eq_mem, decide_eq_false_iff_not]
        exact fun hword => hk (hown hword)
  rw [Pairs.checkNames_eq (fun k hk => (hnames k hk).1), Pairs.namesAny_append, hnone,
    Bool.false_or]

theorem opening_isMade (operation : String) :
    IsMade (IsStart operation) .wrongType (Pairs.namesAny ["message"] fields) (opening operation fields) := by
  have hchecked : Pairs.checkNames ownNames fields = .ok () := by
    rw [← List.append_nil ownNames, checkNames_append hnames [] (List.Subset.refl ownNames),
      Pairs.namesAny_nil, if_neg Bool.false_ne_true]
  have htaken : Pairs.checkNames (["self"] ++ ["message"]) fields = _ :=
    checkNames_append hnames ["message"] (by simp [ownNames])
  rw [List.singleton_append] at htaken
  rw [opening, hchecked, Except.bind, start, note, Pairs.checkNames_update, htaken]
  cases Pairs.namesAny ["message"] fields with
  | true => exact .refused
  | false => exact .made ⟨rfl, rfl, rfl⟩

theorem finish_isMade (t : Timer σ) (operation status : String) :
    IsMade (IsTime operation status t.elapsed) .wrongType
      (Pairs.namesAny ["duration_ms", "status"] fields) (t.finish operation status fields) := by
  have htaken := checkNames_append hnames ["duration_ms", "status"] (List.Subset.refl ownNames)
  change Pairs.checkNames ["self", "operation", "duration_ms", "status"] fields = _ at htaken
  rw [finish, timing, htaken]
  cases Pairs.namesAny ["duration_ms", "status"] fields with
  | true => exact .refused
  | false =>
      refine .made ⟨rfl, rfl, rfl, ?_, ?_, ?_⟩
      all_goals
        rw [Pairs.lookup?_update_fields]
        rfl

theorem failure_isMade (t : Timer σ) (operation : String) (f : Fault)
    (hmessage : Pairs.namesAny ["message"] fields = false) :
    IsMade (IsFailure operation f) errorTaken (Pairs.namesAny ["error"] fields)
      (t.failure operation fields f) := by
  have htaken : Pairs.checkNames (["self"] ++ (["message"] ++ ["error"])) fields = _ :=
    checkNames_append hnames _ (by simp [ownNames])
  rw [Pairs.namesAny_append, hmessage, Bool.false_or] at htaken
  change Pairs.checkNames ["self", "message", "error"] fields = _ at htaken
  rw [failure, LogEntry.failure, htaken]
  cases Pairs.namesAny ["error"] fields with
  | true => exact .refused
  | false =>
      have hfields := lookup?_withError t.errorId fields f
      exact .made ⟨rfl, rfl, rfl, hfields.1, hfields.2⟩

end Fields

/-! ### Runs of a timer -/

theorem run_eq (t : Timer σ) (operation : String) (fields : Pairs) (body : Effect σ α) :
    t.run operation fields body = do
      t.send (opening operation fields)
      let result ← tryCatch body (t.fail operation fields)
      t.send (t.finish operation "completed" fields)
      return result :=
  rfl

theorem run_of_opening_error {f : Fault} (h : opening operation fields = .error f) :
    t.run operation fields body s = (.error f, s) := by
  rw [run_eq, h]
  rfl

variable {e time failure : LogEntry} {a : α} {f f' : Fault}

theorem run_of_opening (h : opening operation fields = .ok e) :
    t.run operation fields body s = (do
      let result ← tryCatch body (t.fail operation fields)
      t.send (t.finish operation "completed" fields)
      return result : Effect σ α) (t.emit e s) := by
  rw [run_eq, h]
  exact Effect.bind_of_ok rfl _

section Opened

variable (hopen : opening operation fields = .ok e)

include hopen

theorem run_of_finish_error (hbody : body (t.emit e s) = (.ok a, s'))
    (h : t.finish operation "completed" fields = .error f) :
    t.run operation fields body s = (.error f, s') := by
  rw [run_of_opening hopen, Effect.bind_of_ok (Effect.tryCatch_of_ok hbody _), h]
  rfl

theorem run_of_finish (hbody : body (t.emit e s) = (.ok a, s'))
    (h : t.finish operation "completed" fields = .ok time) :
    t.run operation fields body s = (.ok a, t.emit time s') := by
  rw [run_of_opening hopen, Effect.bind_of_ok (Effect.tryCatch_of_ok hbody _), h]
  rfl

theorem run_of_fail (hbody : body (t.emit e s) = (.error f, s')) {s'' : σ}
    (h : t.fail operation fields f s' = ((.error f', s'') : Except Fault α × σ)) :
    t.run operation fields body s = (.error f', s'') := by
  rw [run_of_opening hopen]
  apply Effect.bind_of_error
  rw [Effect.tryCatch_of_error hbody]
  exact h

end Opened

theorem fail_of_interrupt (h : isInterrupt f = true) :
    t.fail operation fields f s = ((.error f, s) : Except Fault α × σ) := by
  rw [fail, if_pos h]
  rfl

theorem fail_of_finish_error (hf : isInterrupt f = false)
    (h : t.finish operation "failed" fields = .error f') :
    t.fail operation fields f s = ((.error f', s) : Except Fault α × σ) := by
  simp only [fail, hf, h]
  rfl

theorem fail_of_failure_error (hf : isInterrupt f = false)
    (h : t.finish operation "failed" fields = .ok time)
    (hfailure : t.failure operation fields f = .error f') :
    t.fail operation fields f s = ((.error f', t.emit time s) : Except Fault α × σ) := by
  simp only [fail, hf, h, hfailure]
  rfl

theorem fail_of_failure (hf : isInterrupt f = false)
    (h : t.finish operation "failed" fields = .ok time)
    (hfailure : t.failure operation fields f = .ok failure) :
    t.fail operation fields f s = ((.error f, t.emit failure (t.emit time s)) : Except Fault α × σ) := by
  simp only [fail, hf, h, hfailure]
  rfl

end Timer

/-! ### Journals -/

namespace Logging

/-- The record that the logger with a name makes of an entry, if the entry counts. -/
def recordOf? (name : String) (e : LogEntry) (l : Logging) : Option LogRecord :=
  (l.find? name).bind fun s => if e.level.atLeast s.level then some (l.record s e) else none

/-- The logger with a name has a level at which the times of operations count. -/
def IsAtInfo (name : String) (l : Logging) : Prop :=
  ∃ s, l.find? name = some s ∧ (s.level = .info ∨ s.level = .debug)

theorem settings_write (s : LogSettings) (e : LogEntry) (l : Logging) :
    (l.write s e).settings = l.settings := by
  have hfile : ∀ r, (l.toFile s e.channel r).settings = l.settings := by
    intro r
    unfold toFile
    split <;> rfl
  have hconsole : ∀ r (l : Logging), (l.toConsole s r).settings = l.settings := by
    intro r l
    unfold toConsole
    split <;> rfl
  unfold write
  split
  · split <;> rfl
  · cases s.toFiles <;> cases s.showsOnConsole e.channel <;> simp [hfile, hconsole]

theorem IsAtInfo.emit {name : String} {l : Logging} (h : l.IsAtInfo name) (e : LogEntry) :
    (l.emit name e).IsAtInfo name := by
  obtain ⟨s, hfind, hlevel⟩ := h
  refine ⟨s, ?_, hlevel⟩
  have hsettings : (l.emit name e).settings = l.settings := by
    unfold Logging.emit
    rw [hfind]
    simp only
    split
    · exact settings_write s e l
    · rfl
  rw [find?, hsettings]
  exact hfind

end Logging

/-- The loggers of a process with all records that they made, the latest last, and the rest
of what operations change. -/
structure Journal (τ : Type) where
  logging : Logging
  records : List LogRecord := []
  rest : τ

namespace Journal

variable {τ α : Type}

def emit (name : String) (e : LogEntry) (j : Journal τ) : Journal τ where
  logging := j.logging.emit name e
  records := j.records ++ (j.logging.recordOf? name e).toList
  rest := j.rest

/-- The timer of the logger with a name. -/
def timer (name : String) (elapsed : Binary64) (errorId : String) : Timer (Journal τ) where
  emit := emit name
  elapsed := elapsed
  errorId := errorId

/-- The name of the logger of an operation, which is the shared logger if none is given and
is made then if there is none. -/
def pick (own : Option String) (j : Journal τ) : String × Journal τ :=
  match own with
  | some name => (name, j)
  | none => (j.logging.getShared.1, { j with logging := j.logging.getShared.2 })

/-- The logger with a name writes one record, that of the entry, and nothing else happens. -/
def Writes (name : String) (e : LogEntry) (j j' : Journal τ) : Prop :=
  ∃ s, j.logging.find? name = some s ∧
    j' = ⟨j.logging.write s e, j.records ++ [j.logging.record s e], j.rest⟩

/-- How a timed operation ends if timing hands its outcome on: with the outcome and the
journal that it left, after one record of the time and, if it failed, one of the failure.
An interrupt is not recorded. -/
inductive HandsOn (name operation : String) (elapsed : Binary64) :
    Except Fault α × Journal τ → Except Fault α × Journal τ → Prop
  | completed {a : α} {j j' : Journal τ} {time : LogEntry}
      (htime : time.IsTime operation "completed" elapsed) (h : j.Writes name time j') :
      HandsOn name operation elapsed (.ok a, j) (.ok a, j')
  | failed {f : Fault} {j j₁ j' : Journal τ} {time failure : LogEntry}
      (hf : Timer.isInterrupt f = false) (htime : time.IsTime operation "failed" elapsed)
      (hfailure : failure.IsFailure operation f) (h : j.Writes name time j₁)
      (h' : j₁.Writes name failure j') :
      HandsOn name operation elapsed (.error f, j) (.error f, j')
  | interrupted {f : Fault} {j : Journal τ} (hf : Timer.isInterrupt f = true) :
      HandsOn name operation elapsed (.error f, j) (.error f, j)

variable {name operation : String} {elapsed : Binary64} {e : LogEntry} {f : Fault}
  {j j' j'' : Journal τ}

theorem length_records_of_writes (h : j.Writes name e j') :
    j'.records.length = j.records.length + 1 := by
  obtain ⟨s, -, rfl⟩ := h
  simp

theorem length_records_emit_le (name : String) (e : LogEntry) (j : Journal τ) :
    (j.emit name e).records.length ≤ j.records.length + 1 := by
  unfold emit
  cases j.logging.recordOf? name e <;> simp

theorem writes_emit (h : j.logging.IsAtInfo name) (he : e.level = .info ∨ e.level = .error) :
    j.Writes name e (j.emit name e) := by
  obtain ⟨s, hfind, hlevel⟩ := h
  have hcounts : e.level.atLeast s.level = true := by
    rcases he with he | he <;> rcases hlevel with hlevel | hlevel <;> rw [he, hlevel] <;> rfl
  refine ⟨s, hfind, ?_⟩
  simp [emit, Logging.emit, Logging.recordOf?, hfind, hcounts]

/-- The records of a failure are two, so a refused one is missed. -/
theorem not_handsOn_of_length {f f' : Fault} (hf : Timer.isInterrupt f = false)
    (h : j''.records.length ≤ j'.records.length + 1) :
    ¬ HandsOn (α := α) name operation elapsed (.error f, j') (.error f', j'') := by
  intro hon
  cases hon with
  | failed _ _ _ htime hfailure =>
      have hfirst := length_records_of_writes htime
      have hsecond := length_records_of_writes hfailure
      omega
  | interrupted hf' =>
      rw [hf] at hf'
      cases hf'

/-- What a timed operation comes to: its own outcome unless a field has a name that is taken
then, and at a level at which times count, nothing but that keeps it from being handed on. -/
structure IsTimed (name operation : String) (elapsed : Binary64) (fields : Pairs)
    (outcome run : Except Fault α × Journal τ) : Prop where
  result : run.1 =
    if Pairs.namesAny (Timer.takenAfter outcome.1) fields then .error (Timer.refusal fields)
    else outcome.1
  handsOn_iff : outcome.2.logging.IsAtInfo name →
    (HandsOn name operation elapsed outcome run ↔
      Pairs.namesAny (Timer.takenAfter outcome.1) fields = false)

theorem isTimed_of_refused {fields : Pairs} (hf : Timer.isInterrupt f = false)
    (htaken : Pairs.namesAny (Timer.takenAfter (.error f : Except Fault α)) fields = true)
    (h : j''.records.length ≤ j'.records.length + 1) :
    IsTimed (α := α) name operation elapsed fields (.error f, j')
      (.error (Timer.refusal fields), j'') := by
  refine ⟨?_, fun _ => iff_of_false (not_handsOn_of_length hf h) ?_⟩
  · rw [htaken, if_pos rfl]
  · rw [htaken]
    nofun

section Timed

open LogEntry

variable {errorId : String} {fields : Pairs} {body : Effect (Journal τ) α} {a : α}
  (hnames : ∀ k ∈ Pairs.keys fields, k.isText = true ∧ k.isAmong Timer.ownNames = false)
  (hopen : Timer.opening operation fields = .ok e)

include hnames hopen

theorem isTimed_of_ok (hbody : body (j.emit name e) = (.ok a, j')) :
    IsTimed name operation elapsed fields (.ok a, j')
      ((timer name elapsed errorId).run operation fields body j) := by
  have hfinish := Timer.finish_isMade hnames (timer (τ := τ) name elapsed errorId) operation "completed"
  generalize hmade : (timer (τ := τ) name elapsed errorId).finish operation "completed" fields = made
    at hfinish
  generalize htaken : Pairs.namesAny ["duration_ms", "status"] fields = taken at hfinish
  cases hfinish with
  | refused =>
      have hrun := Timer.run_of_finish_error hopen hbody hmade
      refine ⟨?_, fun _ => iff_of_false ?_ ?_⟩
      · rw [hrun, Timer.takenAfter, Timer.refusal, htaken, if_pos rfl, if_pos rfl]
      · rw [hrun]
        nofun
      · rw [Timer.takenAfter, htaken]
        nofun
  | made htime =>
      have hrun := Timer.run_of_finish hopen hbody hmade
      refine ⟨?_, fun hinfo => iff_of_true ?_ htaken⟩
      · rw [hrun, Timer.takenAfter, htaken, if_neg Bool.false_ne_true]
      · rw [hrun]
        exact .completed htime (writes_emit hinfo (.inl htime.level))

theorem isTimed_of_error (hmessage : Pairs.namesAny ["message"] fields = false)
    (hbody : body (j.emit name e) = (.error f, j')) :
    IsTimed name operation elapsed fields (.error f, j')
      ((timer name elapsed errorId).run operation fields body j) := by
  cases hf : Timer.isInterrupt f with
  | true =>
      have hrun : (timer name elapsed errorId).run operation fields body j = (.error f, j') :=
        Timer.run_of_fail hopen hbody (Timer.fail_of_interrupt hf)
      have htaken : Pairs.namesAny (Timer.takenAfter (.error f : Except Fault α)) fields = false := by
        rw [Timer.takenAfter, if_pos hf, Pairs.namesAny_nil]
      refine ⟨?_, fun _ => iff_of_true ?_ htaken⟩
      · rw [hrun, htaken, if_neg Bool.false_ne_true]
      · rw [hrun]
        exact .interrupted hf
  | false =>
      have htaken : Pairs.namesAny (Timer.takenAfter (.error f : Except Fault α)) fields =
          (Pairs.namesAny ["duration_ms", "status"] fields || Pairs.namesAny ["error"] fields) := by
        rw [Timer.takenAfter, hf, ← Pairs.namesAny_append]
        rfl
      have hfinish := Timer.finish_isMade hnames (timer (τ := τ) name elapsed errorId) operation "failed"
      have hfailure := Timer.failure_isMade hnames (timer (τ := τ) name elapsed errorId) operation f
        hmessage
      generalize hmade : (timer (τ := τ) name elapsed errorId).finish operation "failed" fields = made
        at hfinish
      generalize hmade' : (timer (τ := τ) name elapsed errorId).failure operation fields f = made'
        at hfailure
      generalize hduration : Pairs.namesAny ["duration_ms", "status"] fields = taken at hfinish htaken
      generalize Pairs.namesAny ["error"] fields = taken' at hfailure htaken
      cases hfinish with
      | refused =>
          rw [Timer.run_of_fail hopen hbody (Timer.fail_of_finish_error hf hmade)]
          have hrefusal : Timer.refusal fields = .wrongType := by
            rw [Timer.refusal, hduration, if_pos rfl]
          rw [← hrefusal]
          exact isTimed_of_refused hf (by rw [htaken, Bool.true_or]) (Nat.le_succ _)
      | made htime =>
          cases hfailure with
          | refused =>
              rw [Timer.run_of_fail hopen hbody (Timer.fail_of_failure_error hf hmade hmade')]
              have hrefusal : Timer.refusal fields = Timer.errorTaken := by
                rw [Timer.refusal, hduration, if_neg Bool.false_ne_true]
              rw [← hrefusal]
              exact isTimed_of_refused hf (by rw [htaken, Bool.or_true]) (length_records_emit_le _ _ _)
          | made hfails =>
              have hrun := Timer.run_of_fail hopen hbody (Timer.fail_of_failure hf hmade hmade')
              refine ⟨?_, fun hinfo => iff_of_true ?_ htaken⟩
              · rw [hrun, htaken, Bool.false_or, if_neg Bool.false_ne_true]
              · rw [hrun]
                exact .failed hf htime hfails (writes_emit hinfo (.inl htime.level))
                  (writes_emit (hinfo.emit _) (.inr hfails.level))

end Timed

/-- Timing an operation hands its outcome on exactly if no field has a name that the makers
of the records have for something else; after an operation that returns these are the names
of the duration and of the status, after a failure that of the error as well.  With such a
field the operation ends in a fault of the type, or of the key if only the name of the
error is taken, and with a field that is named as the message is it does not even begin. -/
theorem timing_hands_on_iff (own : Option String) (elapsed : Binary64) (errorId operation : String)
    {fields : Pairs}
    (hnames : ∀ k ∈ Pairs.keys fields, k.isText = true ∧ k.isAmong Timer.ownNames = false)
    (body : Effect (Journal τ) α) (j : Journal τ) :
    let name := (j.pick own).1
    let run := (timer name elapsed errorId).run operation fields body (j.pick own).2
    (Pairs.namesAny ["message"] fields = true → run = (.error .wrongType, (j.pick own).2)) ∧
      (Pairs.namesAny ["message"] fields = false →
        ∃ start : LogEntry, start.IsStart operation ∧
          ∀ result j', body ((j.pick own).2.emit name start) = (result, j') →
            IsTimed name operation elapsed fields (result, j') run) := by
  intro name run
  have hopen := Timer.opening_isMade hnames operation
  generalize hmade : Timer.opening operation fields = made at hopen
  generalize htaken : Pairs.namesAny ["message"] fields = taken at hopen
  cases hopen with
  | refused => exact ⟨fun _ => Timer.run_of_opening_error hmade, nofun⟩
  | @made start hbegin =>
      refine ⟨nofun, fun _ => ⟨start, hbegin, ?_⟩⟩
      intro result j' hbody
      cases result with
      | ok a => exact isTimed_of_ok hnames hmade hbody
      | error f => exact isTimed_of_error hnames hmade htaken hbody

/-- The shared logger is made for an operation that fails, after it has changed what is not
a part of the log. -/
theorem timing_hands_on_iff_of_failure :
    let fields : Pairs := [(.str "file", .str "t.yaml"), (.str "error_type", .str "none")]
    let boom : Fault := .host { kind := .runtime, arguments := [.str "boom"] }
    let body : Effect (Journal Nat) Unit := fun j => (.error boom, { j with rest := j.rest + 1 })
    let j : Journal Nat := { logging := { stamp := { place := ⟨"m", "f", 1⟩ } }, rest := 0 }
    (∀ k ∈ Pairs.keys fields, k.isText = true ∧ k.isAmong Timer.ownNames = false) ∧
      ∃ j', j'.rest = 1 ∧ HandsOn "declcapture" "compile" (.zero false) (.error boom, j')
        ((timer "declcapture" (.zero false) "id").run "compile" fields body (j.pick none).2) := by
  intro fields boom body j
  have hnames : ∀ k ∈ Pairs.keys fields, k.isText = true ∧ k.isAmong Timer.ownNames = false := by
    decide
  refine ⟨hnames, ?_⟩
  obtain ⟨start, hstart, htimed⟩ :=
    (timing_hands_on_iff none (.zero false) "id" "compile" hnames body j).2 rfl
  refine ⟨_, ?_, ((htimed _ _ rfl).handsOn_iff ?_).mpr ?_⟩
  · rfl
  · exact Logging.IsAtInfo.emit ⟨_, rfl, .inl rfl⟩ start
  · rfl

/-- An operation that returns with a status among its fields, and one that fails with an
error among them: the one ends in a fault of the type and the other in one of the key. -/
theorem outcome_lost_of_status :
    let j : Journal Unit := { logging := { stamp := { place := ⟨"m", "f", 1⟩ }, settings := [{}] }, rest := () }
    let t : Timer (Journal Unit) := timer "declcapture" (.zero false) "id"
    let status : Pairs := [(.str "status", .str "ready")]
    let error : Pairs := [(.str "error", .str "e17")]
    let boom : Fault := .host { kind := .runtime, arguments := [.str "boom"] }
    j.logging.IsAtInfo "declcapture" ∧
      (∀ k ∈ Pairs.keys (status ++ error), k.isText = true ∧ k.isAmong Timer.ownNames = false) ∧
      (t.run "op" status (pure ()) j).1 = .error .wrongType ∧
      (∀ j', ¬ HandsOn "declcapture" "op" (.zero false) (.ok (), j') (t.run "op" status (pure ()) j)) ∧
      (t.run "op" error (throw boom) j).1 = (.error Timer.errorTaken : Except Fault Unit) := by
  intro j t status error boom
  refine ⟨⟨_, rfl, .inl rfl⟩, by decide, rfl, ?_, rfl⟩
  intro j' hon
  cases hon

end Journal

end CaptureForest
