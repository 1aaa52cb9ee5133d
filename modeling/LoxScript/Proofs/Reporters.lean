import LoxScript.Proofs.Reports

/-! # Reporters

All reporters of a session receive the same faults. Guests, which are registered for a single call, receive
those of that call and are gone afterwards.

* **`Reporter.Received`** — what a reporter has received when it has received some faults, kind by kind.
* **`Session.Call`** — what a session can be asked for, with the faults that are reported on it
  (`Call.reports`), the session that it leaves (`Call.after`) and what has become of its guests
  (`Call.guestsAfter`).
* **`Session.Call.went`**, **`Session.Call.guestsAfter_eq`** — one call passes its faults to every reporter
  registered, and to every guest.
* **`reporters_agree`** — the result for calls one after another. -/

namespace LoxScript

/-! ## What a reporter has received -/

namespace Reporter

/-- **What a reporter has when it has received some faults**: a listener has heard the faults, a collector
has counted their diagnostics as errors, and a stream has been written the same diagnostics, each followed
by a newline. -/
inductive Received (faults : List (Fault Cause)) : Reporter → Reporter → Prop
  /-- A listener has the faults themselves. -/
  | listener (heard : List (Fault Cause)) : Received faults (.listener heard) (.listener (heard ++ faults))
  /-- A collector has the diagnostics of the faults, and has counted each of them. -/
  | collector {before after : Collector} :
      after.limit = before.limit →
      after.diagnostics = before.diagnostics ++ faults.map Fault.diagnostic →
      after.errorCount = before.errorCount + (faults.map Fault.diagnostic).length →
      Received faults (.collector before) (.collector after)
  /-- A stream has the text of the same diagnostics. -/
  | stream (showSource : Bool) (written : String) :
      Received faults (.stream showSource written) (.stream showSource
        (written ++ String.join ((faults.map Fault.diagnostic).map (·.text showSource ++ "\n"))))

/-- Without a fault nothing has been received. -/
theorem Received.refl (r : Reporter) : Received [] r r := by
  cases r with
  | listener heard =>
    have received : Received [] (.listener heard) (.listener (heard ++ [])) := .listener heard
    rwa [List.append_nil] at received
  | collector c => exact .collector rfl (List.append_nil _).symm rfl
  | stream showSource written =>
    have received : Received [] (.stream showSource written)
        (.stream showSource (written ++ String.join [])) :=
      .stream showSource written
    rwa [String.join_nil, String.append_empty] at received

/-- One fault is received in front of others. -/
theorem Received.cons {fault : Fault Cause} {faults : List (Fault Cause)} {r r' : Reporter}
    (others : Received faults (r.receive fault) r') : Received (fault :: faults) r r' := by
  -- A listener hears one more, a collector counts one more, a stream has one more text written.
  cases r with
  | listener heard =>
    cases others
    rw [List.append_assoc]
    exact .listener heard
  | collector c =>
    cases others with
    | collector limit diagnostics count =>
      refine .collector limit ?_ ?_
      · rw [diagnostics, Collector.add, List.append_assoc]
        rfl
      · -- Every fault counts, since its diagnostic is that of an error.
        have one : (c.add fault.diagnostic).errorCount = c.errorCount + 1 := by
          rw [Collector.errorCount, Collector.count, Collector.add, List.countP_append]
          rfl
        rw [count, one, List.map_cons, List.length_cons]
        omega
  | stream showSource written =>
    cases others
    have text : written ++ fault.diagnostic.text showSource ++ "\n" ++
        String.join ((faults.map Fault.diagnostic).map (·.text showSource ++ "\n")) =
        written ++ String.join (((fault :: faults).map Fault.diagnostic).map (·.text showSource ++ "\n")) := by
      rw [List.map_cons, List.map_cons, String.join_cons]
      simp only [String.append_assoc]
    rw [text]
    exact .stream showSource written

/-- The reporter behind faults that are passed to it one after another. -/
def receiveAll (r : Reporter) (faults : List (Fault Cause)) : Reporter :=
  faults.foldl (fun r fault => r.receive fault) r

/-- Any reporter ends up with all the faults it is told of, in order. -/
theorem received_receiveAll (faults : List (Fault Cause)) (r : Reporter) :
    Received faults r (r.receiveAll faults) := by
  induction faults generalizing r with
  | nil => exact .refl r
  | cons fault rest ih => exact .cons (ih (r.receive fault))

/-- Reporters to which the same faults are passed have received the same faults. -/
theorem forall₂_received (faults : List (Fault Cause)) (rs : List Reporter) :
    List.Forall₂ (Received faults) rs (rs.map (·.receiveAll faults)) := by
  rw [List.forall₂_map_right_iff, List.forall₂_same]
  exact fun r _ => received_receiveAll faults r

end Reporter

namespace Session

/-! ## Calls -/

/-- **What a session can be asked for**: to run a source, or to carry out statements with guests, reporters
that are registered for this call only. -/
inductive Call where
  /-- Run a source. -/
  | run (source : String) (file : Option String) (limit : Nat)
  /-- Carry out statements, which need not come from a source, with guests. -/
  | interpret (statements : List Stmt) (guests : List Reporter)

namespace Call

variable (passes : Nat)

/-- The session that a call leaves, however it ends. -/
def after : Call → Session → Session
  | run source file limit, s => Outcome.state (runSource passes source file limit s)
  | interpret statements guests, s => Outcome.state (interpretWith passes statements guests s)

/-- The guests of a call. -/
def guests : Call → List Reporter
  | run .. => []
  | interpret _ guests => guests

/-- The guests of a call with what they have received, however it ends. If it ends well, they are given back
(`guests_of_interpretWith`). -/
def guestsAfter : Call → Session → List Reporter
  | run .., _ => []
  | interpret statements guests, s =>
    (Outcome.state (Session.interpret passes statements
      { s with reporters := s.reporters ++ guests })).reporters.drop s.reporters.length

/-- **The faults that are reported on a call.** They depend on the variables and on the lines to be quoted,
but not on the reporters. -/
def reports : Call → Session → List (Fault Cause)
  | run source file limit, s => Session.reports passes source file limit s.world
  | interpret statements _, s => (Outcome.state (Stmt.runAll passes statements s.world)).2.map (shown s.lines)

variable (s : Session)

/-- Statements that are carried out to their end give back their guests. -/
theorem guests_of_interpretWith {statements : List Stmt} {guests given : List Reporter} {t : Session}
    (ends : interpretWith passes statements guests s = .ok given t) :
    given = (interpret statements guests).guestsAfter passes s := by
  simp only [interpretWith] at ends
  rw [guestsAfter]
  cases run : Session.interpret passes statements { s with reporters := s.reporters ++ guests } with
  | ok _ u =>
    rw [run] at ends
    cases ends
    rfl
  | error halt u =>
    rw [run] at ends
    cases ends

/-- However statements with guests end, the session is the one that they leave with as
many reporters as before. -/
theorem state_interpretWith (statements : List Stmt) (guests : List Reporter) :
    Outcome.state (interpretWith passes statements guests s) =
      let left := Outcome.state (Session.interpret passes statements { s with reporters := s.reporters ++ guests })
      { left with reporters := left.reporters.take s.reporters.length } := by
  rw [interpretWith]
  cases Session.interpret passes statements { s with reporters := s.reporters ++ guests } <;> rfl

/-- **Registered reporters and guests receive the same faults** while statements are carried out. -/
theorem went_withGuests (statements : List Stmt) (guests : List Reporter) :
    let faults := (interpret statements guests).reports passes s
    let left := Outcome.state (Session.interpret passes statements { s with reporters := s.reporters ++ guests })
    left.faults = s.faults ++ faults ∧
      left.reporters = s.reporters.map (·.receiveAll faults) ++ guests.map (·.receiveAll faults) := by
  intro faults left
  -- A guest is a reporter like the others while it is registered.
  obtain ⟨w, went⟩ := went_interpret passes statements { s with reporters := s.reporters ++ guests }
  exact ⟨went.faults_eq, went.reporters_eq.trans List.map_append⟩

/-- **One call** passes its faults in order to every reporter registered, and afterwards the same reporters
are registered as before. -/
theorem went (call : Call) : ∃ w, s.Went w (call.reports passes s) (call.after passes s) := by
  cases call with
  | run source file limit => exact went_runSource passes limit s source file
  | interpret statements guests =>
    obtain ⟨faults, reporters⟩ := went_withGuests passes s statements guests
    refine ⟨_, rfl, ?_, ?_⟩
    · rw [after, state_interpretWith]
      exact faults
    · -- As many reporters as were registered are kept, so the guests are dropped.
      rw [after, state_interpretWith]
      dsimp only
      rw [reporters]
      exact List.take_left' (List.length_map _)

/-- **The guests of a call** receive the faults of the call. -/
theorem guestsAfter_eq (call : Call) :
    call.guestsAfter passes s = call.guests.map (·.receiveAll (call.reports passes s)) := by
  cases call with
  | run source file limit => rfl
  | interpret statements guests =>
    obtain ⟨-, reporters⟩ := went_withGuests passes s statements guests
    rw [guestsAfter, reporters]
    exact List.drop_left' (List.length_map _)

end Call

/-! ## Calls one after another -/

variable (passes : Nat)

/-- The session that calls one after another leave. -/
def afterAll : List Call → Session → Session
  | [], s => s
  | call :: rest, s => afterAll rest (call.after passes s)

/-- The faults that are reported on calls one after another. -/
def reportsAll : List Call → Session → List (Fault Cause)
  | [], _ => []
  | call :: rest, s => call.reports passes s ++ reportsAll rest (call.after passes s)

/-- Calls one after another pass the faults of each to every reporter registered. -/
theorem went_afterAll (calls : List Call) (s : Session) :
    ∃ w, s.Went w (reportsAll passes calls s) (afterAll passes calls s) := by
  -- Each call goes on from the session that the calls before it have left.
  induction calls generalizing s with
  | nil => exact ⟨s.world, went_world s s.world⟩
  | cons call rest ih =>
    obtain ⟨w, first⟩ := call.went passes s
    obtain ⟨w', others⟩ := ih (call.after passes s)
    exact ⟨w', first.trans others⟩

end Session

/-- **All reporters see the same story**, and guests stay guests. Whatever a session is asked for one after
another, and however each call ends, the reporters registered at the end are those registered at the
beginning, and each has received the same faults, once each and in order: the diagnostics that a stream has
been written are those that a collector has counted. After every single call the reporters are those
registered before it, and its guests have received exactly the faults of this call. -/
theorem reporters_agree (passes : Nat) (calls : List Session.Call) (s : Session) :
    (Session.afterAll passes calls s).faults = s.faults ++ Session.reportsAll passes calls s ∧
    List.Forall₂ (Reporter.Received (Session.reportsAll passes calls s)) s.reporters
      (Session.afterAll passes calls s).reporters ∧
    ∀ (call : Session.Call) (t : Session),
      List.Forall₂ (Reporter.Received (call.reports passes t)) t.reporters (call.after passes t).reporters ∧
      List.Forall₂ (Reporter.Received (call.reports passes t)) call.guests (call.guestsAfter passes t) := by
  obtain ⟨w, went⟩ := Session.went_afterAll passes calls s
  refine ⟨went.faults_eq, ?_, fun call t => ⟨?_, ?_⟩⟩
  · rw [went.reporters_eq]
    exact Reporter.forall₂_received _ _
  · obtain ⟨w', once⟩ := call.went passes t
    rw [once.reporters_eq]
    exact Reporter.forall₂_received _ _
  · rw [call.guestsAfter_eq]
    exact Reporter.forall₂_received _ _

end LoxScript
