import DocSearch.Proofs.Index.Scripted

/-! # What a command may do

A command drops indexes only if it is a drop or a rebuild that is confirmed, and creates indexes only
if it creates the missing ones or is such a rebuild. Whatever the words, the environment and the
deployment, a call of the program ends in one of six ways, and only in the last of them, past the
ping and with the address told, is there work on indexes at all. -/

namespace DocSearch

variable {σ τ α β ι : Type}

/-- Nothing is created or dropped. -/
def IndexLog.Harmless (log : IndexLog τ) : Prop := log.creates = [] ∧ log.drops = []

theorem IndexLog.harmless_nil : IndexLog.Harmless ([] : IndexLog τ) := ⟨rfl, rfl⟩

/-- What is created or dropped is the index that the settings name. -/
structure IndexLog.Within (settings : IndexSettings) (log : IndexLog τ) : Prop where
  creates : ∀ place name definition, (place, name, definition) ∈ log.creates →
    settings.Covers place name
  drops : ∀ place name, (place, name) ∈ log.drops → settings.Covers place name

namespace Course

variable {service : IndexService σ τ} {permit : Permit} {settings : IndexSettings} {s s' : σ}
  {log : IndexLog τ}

theorem creates_eq_nil (h : Course service (permit.Allows settings) s log s')
    (denied : permit.creates = false) : log.creates = [] := by
  refine List.filterMap_eq_nil_iff.mpr ?_
  intro e he
  have allowed := h.allowed e he
  cases hc : e.call with
  | create place name definition =>
    rw [hc] at allowed
    exact absurd allowed.1 (by simp [denied])
  | look | drop | sleep => rfl

theorem drops_eq_nil (h : Course service (permit.Allows settings) s log s')
    (denied : permit.drops = false) : log.drops = [] := by
  refine List.filterMap_eq_nil_iff.mpr ?_
  intro e he
  have allowed := h.allowed e he
  cases hc : e.call with
  | drop place name =>
    rw [hc] at allowed
    exact absurd allowed.1 (by simp [denied])
  | look | create | sleep => rfl

theorem creates_permitted (h : Course service (permit.Allows settings) s log s')
    (hne : log.creates ≠ []) : permit.creates = true := by
  cases hp : permit.creates with
  | true => rfl
  | false => exact absurd (h.creates_eq_nil hp) hne

theorem drops_permitted (h : Course service (permit.Allows settings) s log s')
    (hne : log.drops ≠ []) : permit.drops = true := by
  cases hp : permit.drops with
  | true => rfl
  | false => exact absurd (h.drops_eq_nil hp) hne

theorem within (h : Course service (permit.Allows settings) s log s') : log.Within settings where
  creates := by
    intro place name definition hm
    obtain ⟨time, he⟩ := IndexLog.mem_creates_iff.mp hm
    exact (h.allowed _ he).2
  drops := by
    intro place name hm
    obtain ⟨time, he⟩ := IndexLog.mem_drops_iff.mp hm
    exact (h.allowed _ he).2

end Course

namespace IndexServer

/-- The server with a record of the calls of its service. -/
def recorded (server : IndexServer σ) : IndexServer (IndexLog Datum × σ) where
  connect connection := (server.connect connection).onSecond
  ping := server.ping.onSecond
  address := server.address.onSecond
  service := server.service.recorded

/-! ## Sessions as courses -/

/-- A session asks for a course of calls as `P` has them, which its recorded twin has on record. -/
def Orderly (service : IndexService σ Datum) (P : IndexCall Datum → Prop) (x : Session σ α)
    (twin : Session (IndexLog Datum × σ) α) : Prop :=
  ∀ console s, ∃ entries outcome shown s', x.run (console, s) = (outcome, shown, s') ∧
    (∀ log, twin.run (console, log, s) = (outcome, shown, log ++ entries, s')) ∧
    Course service P s entries s'

namespace Orderly

variable {service : IndexService σ Datum} {P : IndexCall Datum → Prop} {x : Session σ α}
  {twin : Session (IndexLog Datum × σ) α} {f : α → Session σ β}
  {g : α → Session (IndexLog Datum × σ) β}

theorem pure (a : α) : Orderly service P (Pure.pure a) (Pure.pure a) := by
  intro console s
  exact ⟨[], .ok a, console, s, rfl, fun log => by simp, .nil⟩

theorem say (line : String) : Orderly service P (IndexServer.say line) (IndexServer.say line) := by
  intro console s
  exact ⟨[], .ok (), console ++ [line], s, rfl, fun log => by simp [IndexServer.say], .nil⟩

theorem work {x : Action σ α} {twin : Action (IndexLog Datum × σ) α}
    (h : Confined service P x twin) : Orderly service P x.onSecond twin.onSecond := by
  intro console s
  obtain ⟨entries, outcome, s', hr, hc⟩ := h s
  refine ⟨entries, outcome, console, s', ?_, fun log => ?_, hc⟩
  · rw [Action.run_onSecond, hr.run]
  · rw [Action.run_onSecond, hr.recorded]

theorem bind (h : Orderly service P x twin) (h' : ∀ a, Orderly service P (f a) (g a)) :
    Orderly service P (x >>= f) (twin >>= g) := by
  intro console s
  obtain ⟨entries, outcome, shown, s₁, hx, ht, hc⟩ := h console s
  cases outcome with
  | error fault =>
    exact ⟨entries, .error fault, shown, s₁, Action.run_bind_of_error hx f,
      fun log => Action.run_bind_of_error (ht log) g, hc⟩
  | ok a =>
    obtain ⟨more, outcome, shown, s', hf, hg, hc'⟩ := h' a shown s₁
    refine ⟨entries ++ more, outcome, shown, s', ?_, fun log => ?_, hc.append hc'⟩
    · rw [Action.run_bind_of_ok hx, hf]
    · rw [Action.run_bind_of_ok (ht log), hg, List.append_assoc]

theorem sayAll (lines : List String) :
    Orderly service P (IndexServer.sayAll lines) (IndexServer.sayAll lines) := by
  induction lines with
  | nil => exact pure ()
  | cons line rest ih => exact bind (say line) fun _ => ih

end Orderly
end IndexServer

namespace IndexCommand

/-- What a command is permitted. -/
def permit : IndexCommand → Permit
  | .status => ⟨false, false⟩
  | .create => ⟨true, false⟩
  | .drop confirmed _ => ⟨false, confirmed⟩
  | .recreate confirmed _ => ⟨confirmed, confirmed⟩

/-- Whether a command is turned away for want of a confirmation. -/
def isUnconfirmed : IndexCommand → Bool
  | .drop confirmed _ | .recreate confirmed _ => !confirmed
  | .status | .create => false

variable {command : IndexCommand}

theorem permit_drops (h : command.permit.drops = true) :
    ∃ wait, command = .drop true wait ∨ command = .recreate true wait := by
  cases command with
  | status | create => cases h
  | drop confirmed wait =>
    cases h
    exact ⟨wait, .inl rfl⟩
  | recreate confirmed wait =>
    cases h
    exact ⟨wait, .inr rfl⟩

theorem permit_creates (h : command.permit.creates = true) :
    command = .create ∨ ∃ wait, command = .recreate true wait := by
  cases command with
  | status | drop => cases h
  | create => exact .inl rfl
  | recreate confirmed wait =>
    cases h
    exact .inr ⟨wait, rfl⟩

theorem permit_of_isUnconfirmed (h : command.isUnconfirmed = true) :
    command.permit = ⟨false, false⟩ := by
  cases command with
  | status | create => cases h
  | drop confirmed wait | recreate confirmed wait =>
    cases confirmed with
    | true => cases h
    | false => rfl

end IndexCommand

namespace IndexServer

theorem orderly_perform (work : IndexWork σ Datum) (command : IndexCommand) :
    Orderly work.service (command.permit.Allows work.settings) (perform work command)
      (perform work.recorded command) := by
  cases command with
  | status =>
    refine .bind (.say _) fun _ => .bind (.say _) fun _ => ?_
    refine .bind (.work (.forEach (work.keeps_info _) _)) fun infos => ?_
    exact .bind (.sayAll _) fun _ => .bind (.say _) fun _ => .pure _
  | create =>
    refine .bind (.say _) fun _ => ?_
    refine .bind (.work (.forEach (work.keeps_create rfl true) _)) fun answers => ?_
    exact .bind (.sayAll _) fun _ => .bind (.say _) fun _ => .pure _
  | drop confirmed wait =>
    cases confirmed with
    | false => exact .bind (.say _) fun _ => .bind (.say _) fun _ => .pure _
    | true =>
      refine .bind (.say _) fun _ => ?_
      refine .bind (.work (.forEach (work.keeps_drop rfl wait) _)) fun answers => ?_
      exact .bind (.sayAll _) fun _ => .pure _
  | recreate confirmed wait =>
    cases confirmed with
    | false => exact .bind (.say _) fun _ => .bind (.say _) fun _ => .pure _
    | true =>
      refine .bind (.say _) fun _ => ?_
      refine .bind (.work (work.keeps_recreateAll rfl rfl wait)) fun answers => ?_
      refine .bind (.sayAll _) fun _ => ?_
      split
      · exact .pure _
      · exact .bind (.say _) fun _ => .pure _

/-! ## How a call of the program ends -/

/-- The connection that the environment asks for is made, and the ping is answered. -/
structure Answers (server : IndexServer σ) (env : Environment) (settings : IndexSettings)
    (s s₁ s₂ : σ) : Prop where
  load : IndexSettings.load env = .ok settings
  connected : (server.connect settings.connection).run s = (.ok (), s₁)
  answered : server.ping.run s₁ = (.ok (), s₂)

/-- How a call of the program ends, from a state: its exit, the record and the state after it. -/
inductive Ends (server : IndexServer σ) (env : Environment) (words : List String) :
    σ → Except Fault Exit → IndexLog Datum → σ → Prop
  | idle {exit : Exit} {s : σ} (none : ∀ command, IndexCommand.ofWords words ≠ .ok (some command)) :
      Ends server env words s (.ok exit) [] s
  | unset {fault : Fault} {s : σ} (load : IndexSettings.load env = .error fault) :
      Ends server env words s (.error fault) [] s
  | unconnected {settings : IndexSettings} {fault : Fault} {s s' : σ}
      (load : IndexSettings.load env = .ok settings)
      (refused : (server.connect settings.connection).run s = (.error fault, s')) :
      Ends server env words s (.error fault) [] s'
  | unanswered {settings : IndexSettings} {fault : Fault} {exit : Except Fault Exit} {s s₁ s' : σ}
      (load : IndexSettings.load env = .ok settings)
      (connected : (server.connect settings.connection).run s = (.ok (), s₁))
      (unanswered : server.ping.run s₁ = (.error fault, s')) : Ends server env words s exit [] s'
  | unaddressed {settings : IndexSettings} {fault : Fault} {s s₁ s₂ s' : σ}
      (answers : Answers server env settings s s₁ s₂)
      (unaddressed : server.address.run s₂ = (.error fault, s')) :
      Ends server env words s (.error fault) [] s'
  | performed {settings : IndexSettings} {command : IndexCommand} {exit : Except Fault Exit}
      {log : IndexLog Datum} {address : Option (Value × Value)} {s s₁ s₂ s₃ s' : σ}
      (named : IndexCommand.ofWords words = .ok (some command))
      (answers : Answers server env settings s s₁ s₂)
      (addressed : server.address.run s₂ = (.ok address, s₃))
      (course : Course server.service (command.permit.Allows settings) s₃ log s')
      (unconfirmed : command.isUnconfirmed = true → exit = .ok .failure) :
      Ends server env words s exit log s'

theorem run_perform_unconfirmed (work : IndexWork σ Datum) {command : IndexCommand}
    (h : command.isUnconfirmed = true) (state : List String × σ) :
    ((perform work command).run state).1 = .ok .failure := by
  cases command with
  | status | create => cases h
  | drop confirmed wait | recreate confirmed wait =>
    cases confirmed with
    | true => cases h
    | false => rfl

section CarryOut

variable {server : IndexServer σ} {env : Environment} {settings : IndexSettings} {s s₁ s₂ s₃ : σ}

/-- A server answers in one way only. -/
theorem Answers.unique {other : IndexSettings} {t₁ t₂ : σ} (h : Answers server env settings s s₁ s₂)
    (h' : Answers server env other s t₁ t₂) : settings = other ∧ s₁ = t₁ ∧ s₂ = t₂ := by
  cases h.load.symm.trans h'.load
  cases h.connected.symm.trans h'.connected
  cases h.answered.symm.trans h'.answered
  exact ⟨rfl, rfl, rfl⟩

/-- Up to the ping the indexes are as they were, if connections and pings leave them alone. -/
theorem Answers.index_eq (h : Answers server env settings s s₁ s₂)
    {inventory : Inventory server.service ι}
    (connects : ∀ s connection,
      inventory.index ((server.connect connection).run s).2 = inventory.index s)
    (pings : ∀ s, inventory.index (server.ping.run s).2 = inventory.index s) :
    inventory.index s₂ = inventory.index s := by
  have connects := connects s settings.connection
  have pings := pings s₁
  rw [h.connected] at connects
  rw [h.answered] at pings
  exact pings.trans connects

theorem Answers.recorded (h : Answers server env settings s s₁ s₂) (log : IndexLog Datum) :
    Answers server.recorded env settings (log, s) (log, s₁) (log, s₂) where
  load := h.load
  connected := by
    show (server.connect settings.connection).onSecond.run (log, s) = _
    rw [Action.run_onSecond, h.connected]
  answered := by
    show server.ping.onSecond.run (log, s₁) = _
    rw [Action.run_onSecond, h.answered]

variable (command : IndexCommand) (console : List String)

theorem run_carryOut_answered (h : Answers server env settings s s₁ s₂) :
    (carryOut server env command).run (console, s)
      = (do
          let address ← server.address.onSecond
          say ("\n🔗 Connected to: " ++ addressText address)
          perform ⟨server.service, settings, standardPoll⟩ command : Session σ Exit).run
            (console, s₂) := by
  have connected : ((server.connect settings.connection).onSecond : Session σ Unit).run (console, s)
      = (.ok (), console, s₁) := by rw [Action.run_onSecond, h.connected]
  have answered : (server.ping.onSecond.attempt : Session σ _).run (console, s₁)
      = (.ok (.ok ()), console, s₂) := by rw [Action.run_attempt, Action.run_onSecond, h.answered]
  unfold carryOut
  rw [h.load, Action.run_bind_of_ok (Action.run_lift _ _), Action.run_bind_of_ok connected,
    Action.run_bind_of_ok answered]

theorem run_carryOut_addressed (h : Answers server env settings s s₁ s₂)
    {address : Option (Value × Value)} (ha : server.address.run s₂ = (.ok address, s₃)) :
    (carryOut server env command).run (console, s)
      = (perform ⟨server.service, settings, standardPoll⟩ command).run
          (console ++ ["\n🔗 Connected to: " ++ addressText address], s₃) := by
  have addressed : (server.address.onSecond : Session σ _).run (console, s₂)
      = (.ok address, console, s₃) := by rw [Action.run_onSecond, ha]
  rw [run_carryOut_answered command console h, Action.run_bind_of_ok addressed]
  rfl

theorem run_carryOut_unaddressed (h : Answers server env settings s s₁ s₂) {fault : Fault}
    (ha : server.address.run s₂ = (.error fault, s₃)) :
    (carryOut server env command).run (console, s) = (.error fault, console, s₃) := by
  have unaddressed : (server.address.onSecond : Session σ _).run (console, s₂)
      = (.error fault, console, s₃) := by rw [Action.run_onSecond, ha]
  rw [run_carryOut_answered command console h, Action.run_bind_of_error unaddressed]

theorem run_carryOut_unanswered {fault : Fault} (load : IndexSettings.load env = .ok settings)
    (hc : (server.connect settings.connection).run s = (.ok (), s₁))
    (hp : server.ping.run s₁ = (.error fault, s₂)) :
    (carryOut server env command).run (console, s)
      = if fault.kind = .driver then
          (.ok .failure, console ++ ["\n❌ MongoDB 연결 오류: " ++ fault.message], s₂)
        else (.error fault, console, s₂) := by
  have connected : ((server.connect settings.connection).onSecond : Session σ Unit).run (console, s)
      = (.ok (), console, s₁) := by rw [Action.run_onSecond, hc]
  have unanswered : (server.ping.onSecond.attempt : Session σ _).run (console, s₁)
      = (.ok (.error fault), console, s₂) := by
    rw [Action.run_attempt, Action.run_onSecond, hp]
  unfold carryOut
  rw [load, Action.run_bind_of_ok (Action.run_lift _ _), Action.run_bind_of_ok connected,
    Action.run_bind_of_ok unanswered]
  dsimp only
  split <;> rfl

theorem run_carryOut_unconnected {fault : Fault} (load : IndexSettings.load env = .ok settings)
    (hc : (server.connect settings.connection).run s = (.error fault, s₁)) :
    (carryOut server env command).run (console, s) = (.error fault, console, s₁) := by
  have refused : ((server.connect settings.connection).onSecond : Session σ Unit).run (console, s)
      = (.error fault, console, s₁) := by rw [Action.run_onSecond, hc]
  unfold carryOut
  rw [load, Action.run_bind_of_ok (Action.run_lift _ _), Action.run_bind_of_error refused]

end CarryOut

theorem ends_carryOut (server : IndexServer σ) (env : Environment) {words : List String}
    {command : IndexCommand} (named : IndexCommand.ofWords words = .ok (some command))
    (console : List String) (s : σ) :
    ∃ exit shown log s', (carryOut server env command).run (console, s) = (exit, shown, s') ∧
      (carryOut server.recorded env command).run (console, [], s) = (exit, shown, log, s') ∧
      Ends server env words s exit log s' := by
  cases load : IndexSettings.load env with
  | error fault =>
    have unset : ∀ {ρ : Type} (server : IndexServer ρ) (r : ρ),
        (carryOut server env command).run (console, r) = (.error fault, console, r) := by
      intro ρ server r
      unfold carryOut
      rw [load, Action.run_bind_of_error (Action.run_lift _ _)]
    exact ⟨_, console, [], s, unset server s, unset server.recorded _, .unset load⟩
  | ok settings =>
    rcases hc : (server.connect settings.connection).run s with ⟨connected, s₁⟩
    have hcr : (server.recorded.connect settings.connection).run (([] : IndexLog Datum), s)
        = (connected, [], s₁) := by
      show (server.connect settings.connection).onSecond.run ([], s) = _
      rw [Action.run_onSecond, hc]
    cases connected with
    | error fault =>
      exact ⟨_, console, [], s₁, run_carryOut_unconnected command console load hc,
        run_carryOut_unconnected command console load hcr, .unconnected load hc⟩
    | ok =>
      rcases hp : server.ping.run s₁ with ⟨answered, s₂⟩
      have hpr : server.recorded.ping.run (([] : IndexLog Datum), s₁) = (answered, [], s₂) := by
        show server.ping.onSecond.run ([], s₁) = _
        rw [Action.run_onSecond, hp]
      cases answered with
      | error fault =>
        have plain := run_carryOut_unanswered command console load hc hp
        have twin := run_carryOut_unanswered command console load hcr hpr
        by_cases hd : fault.kind = .driver
        · rw [if_pos hd] at plain twin
          exact ⟨_, _, [], s₂, plain, twin, .unanswered load hc hp⟩
        · rw [if_neg hd] at plain twin
          exact ⟨_, _, [], s₂, plain, twin, .unanswered load hc hp⟩
      | ok =>
        have answers : Answers server env settings s s₁ s₂ := ⟨load, hc, hp⟩
        rcases ha : server.address.run s₂ with ⟨addressed, s₃⟩
        have har : server.recorded.address.run (([] : IndexLog Datum), s₂)
            = (addressed, [], s₃) := by
          show server.address.onSecond.run ([], s₂) = _
          rw [Action.run_onSecond, ha]
        cases addressed with
        | error fault =>
          exact ⟨_, console, [], s₃, run_carryOut_unaddressed command console answers ha,
            run_carryOut_unaddressed command console (answers.recorded []) har,
            .unaddressed answers ha⟩
        | ok address =>
          have plain := run_carryOut_addressed command console answers ha
          have twin := run_carryOut_addressed command console (answers.recorded []) har
          let work : IndexWork σ Datum := ⟨server.service, settings, standardPoll⟩
          obtain ⟨log, exit, shown, s', hx, ht, course⟩ := orderly_perform work command
            (console ++ ["\n🔗 Connected to: " ++ addressText address]) s₃
          refine ⟨exit, shown, log, s', plain.trans hx, twin.trans (ht []), ?_⟩
          refine .performed named answers ha course ?_
          intro unconfirmed
          have refused := run_perform_unconfirmed work unconfirmed
            (console ++ ["\n🔗 Connected to: " ++ addressText address], s₃)
          rw [hx] at refused
          exact refused

theorem ends_runWords (server : IndexServer σ) (env : Environment) (words : List String)
    (console : List String) (s : σ) :
    ∃ exit shown log s', (runWords server env words).run (console, s) = (exit, shown, s') ∧
      (runWords server.recorded env words).run (console, [], s) = (exit, shown, log, s') ∧
      Ends server env words s exit log s' := by
  unfold runWords
  cases hw : IndexCommand.ofWords words with
  | error stop => exact ⟨_, console, [], s, rfl, rfl, .idle fun _ h => nomatch hw.symm.trans h⟩
  | ok named =>
    cases named with
    | none => exact ⟨_, console, [], s, rfl, rfl, .idle fun _ h => nomatch hw.symm.trans h⟩
    | some command => exact ends_carryOut server env hw console s

/-! ## What is guarded -/

/-- How a command that is turned away ends, from the state past the ping: with a one in any case, and
with a failure of its own if the address is told. -/
structure TurnsAway (server : IndexServer σ) (s₂ : σ) (exit : Except Fault Exit) : Prop where
  status : Exit.status exit = 1
  addressed : ∀ address s₃, server.address.run s₂ = (.ok address, s₃) → exit = .ok .failure
  unaddressed : ∀ fault s₃, server.address.run s₂ = (.error fault, s₃) → exit = .error fault

/-- What a call of the program keeps to. Only a confirmed drop or rebuild drops an index, and only a
creation or a confirmed rebuild creates one; both are then about the index of the settings, and all
other indexes stay as they are. -/
structure Guarded (server : IndexServer σ) (env : Environment) (words : List String) (s : σ)
    (exit : Except Fault Exit) (log : IndexLog Datum) (s' : σ) : Prop where
  drops : log.drops ≠ [] → ∃ wait, IndexCommand.ofWords words = .ok (some (.drop true wait)) ∨
    IndexCommand.ofWords words = .ok (some (.recreate true wait))
  creates : log.creates ≠ [] → IndexCommand.ofWords words = .ok (some .create) ∨
    ∃ wait, IndexCommand.ofWords words = .ok (some (.recreate true wait))
  idle : (∀ command, IndexCommand.ofWords words ≠ .ok (some command)) → log.Harmless
  unset : env.get? connectionVariable = none → log.Harmless
  unanswered : (∀ settings s₁ s₂, ¬ Answers server env settings s s₁ s₂) → log.Harmless
  status : IndexCommand.ofWords words = .ok (some .status) → log.Harmless
  unconfirmed : ∀ command, IndexCommand.ofWords words = .ok (some command) →
    command.isUnconfirmed = true → log.Harmless ∧
      ∀ settings s₁ s₂, Answers server env settings s s₁ s₂ → TurnsAway server s₂ exit
  within : ∀ settings, IndexSettings.load env = .ok settings → log.Within settings
  frame : ∀ (ι : Type) (inventory : Inventory server.service ι),
    (∀ s connection, inventory.index ((server.connect connection).run s).2 = inventory.index s) →
    (∀ s, inventory.index (server.ping.run s).2 = inventory.index s) →
    (∀ s, inventory.index (server.address.run s).2 = inventory.index s) →
    ∀ collection name,
      (∀ settings, IndexSettings.load env = .ok settings → ¬ settings.Manages collection name) →
      inventory.index s' collection name = inventory.index s collection name

section Guards

variable {server : IndexServer σ} {env : Environment} {words : List String} {s s' : σ}
  {exit : Except Fault Exit} {log : IndexLog Datum}

/-- Where no work is done nothing needs a guard. -/
theorem guarded_nil
    (away : ∀ command, IndexCommand.ofWords words = .ok (some command) →
      ∀ settings s₁ s₂, Answers server env settings s s₁ s₂ → TurnsAway server s₂ exit)
    (frame : ∀ (ι : Type) (inventory : Inventory server.service ι),
      (∀ s connection, inventory.index ((server.connect connection).run s).2 = inventory.index s) →
      (∀ s, inventory.index (server.ping.run s).2 = inventory.index s) →
      (∀ s, inventory.index (server.address.run s).2 = inventory.index s) →
      inventory.index s' = inventory.index s) : Guarded server env words s exit [] s' where
  drops := by
    intro h
    exact absurd rfl h
  creates := by
    intro h
    exact absurd rfl h
  idle := by
    intro _
    exact IndexLog.harmless_nil
  unset := by
    intro _
    exact IndexLog.harmless_nil
  unanswered := by
    intro _
    exact IndexLog.harmless_nil
  status := by
    intro _
    exact IndexLog.harmless_nil
  unconfirmed := by
    intro command hw _
    exact ⟨IndexLog.harmless_nil, away command hw⟩
  within := by
    intro settings _
    exact ⟨nofun, nofun⟩
  frame := by
    intro ι inventory connects pings addresses collection name _
    rw [frame ι inventory connects pings addresses]

/-- Past the ping a command does what it is permitted, and each of the guards is about that. -/
theorem guarded_performed {settings : IndexSettings} {command : IndexCommand}
    {address : Option (Value × Value)} {s₁ s₂ s₃ : σ}
    (named : IndexCommand.ofWords words = .ok (some command))
    (answers : Answers server env settings s s₁ s₂)
    (addressed : server.address.run s₂ = (.ok address, s₃))
    (course : Course server.service (command.permit.Allows settings) s₃ log s')
    (unconfirmed : command.isUnconfirmed = true → exit = .ok .failure) :
    Guarded server env words s exit log s' := by
  have same {other : IndexCommand} (h : IndexCommand.ofWords words = .ok (some other)) :
      command = other := Option.some.inj (Except.ok.inj (named.symm.trans h))
  have harmless (hp : command.permit = ⟨false, false⟩) : log.Harmless :=
    ⟨course.creates_eq_nil (by rw [hp]), course.drops_eq_nil (by rw [hp])⟩
  constructor
  case drops =>
    intro hne
    obtain ⟨wait, rfl | rfl⟩ := IndexCommand.permit_drops (course.drops_permitted hne)
    · exact ⟨wait, .inl named⟩
    · exact ⟨wait, .inr named⟩
  case creates =>
    intro hne
    rcases IndexCommand.permit_creates (course.creates_permitted hne) with rfl | ⟨wait, rfl⟩
    · exact .inl named
    · exact .inr ⟨wait, named⟩
  case idle =>
    intro none
    exact absurd named (none command)
  case unset =>
    intro hno
    have load := answers.load
    rw [IndexSettings.load, hno] at load
    cases load
  case unanswered =>
    intro none
    exact absurd answers (none settings s₁ s₂)
  case status =>
    intro hs
    cases same hs
    exact harmless rfl
  case unconfirmed =>
    intro other ho hu
    cases same ho
    refine ⟨harmless (IndexCommand.permit_of_isUnconfirmed hu), ?_⟩
    intro _ t₁ t₂ others
    obtain ⟨-, -, rfl⟩ := answers.unique others
    rw [unconfirmed hu]
    refine ⟨rfl, fun _ _ _ => rfl, ?_⟩
    intro fault t₃ ha
    cases addressed.symm.trans ha
  case within =>
    intro other ho
    cases answers.load.symm.trans ho
    exact course.within
  case frame =>
    intro ι inventory connects pings addresses collection name apart
    have addresses := addresses s₂
    rw [addressed] at addresses
    have kept := course.frame inventory (apart settings answers.load)
    rw [kept, addresses, answers.index_eq connects pings]

theorem Ends.guarded (h : Ends server env words s exit log s') :
    Guarded server env words s exit log s' := by
  cases h with
  | performed named answers addressed course unconfirmed =>
    exact guarded_performed named answers addressed course unconfirmed
  | idle none =>
    refine guarded_nil ?_ ?_
    · intro command hw
      exact absurd hw (none command)
    · intro ι inventory _ _ _
      rfl
  | unset load =>
    refine guarded_nil ?_ ?_
    · intro _ _ settings s₁ s₂ h
      cases load.symm.trans h.load
    · intro ι inventory _ _ _
      rfl
  | @unconnected settings fault s s' load refused =>
    refine guarded_nil ?_ ?_
    · intro _ _ settings s₁ s₂ h
      cases load.symm.trans h.load
      cases refused.symm.trans h.connected
    · intro ι inventory connects _ _
      have kept := connects s settings.connection
      rwa [refused] at kept
  | @unanswered settings fault exit s s₁ s' load connected unanswered =>
    refine guarded_nil ?_ ?_
    · intro _ _ settings s₁ s₂ h
      cases load.symm.trans h.load
      cases connected.symm.trans h.connected
      cases unanswered.symm.trans h.answered
    · intro ι inventory connects pings _
      have connects := connects s settings.connection
      have pings := pings s₁
      rw [connected] at connects
      rw [unanswered] at pings
      exact pings.trans connects
  | @unaddressed settings fault s s₁ s₂ s' answers unaddressed =>
    refine guarded_nil ?_ ?_
    · intro _ _ other t₁ t₂ others
      obtain ⟨-, -, rfl⟩ := answers.unique others
      refine ⟨rfl, ?_, ?_⟩
      · intro address t₃ ha
        cases unaddressed.symm.trans ha
      · intro fault t₃ ha
        cases unaddressed.symm.trans ha
        rfl
    · intro ι inventory connects pings addresses
      have addresses := addresses s₂
      rw [unaddressed] at addresses
      exact addresses.trans (answers.index_eq connects pings)

end Guards

/-- Whatever the words, the environment and the state, a call of the program keeps to what it is
permitted, and so do pieces of work one after the other: what they create or drop is the index of the
settings, and every other index stays as it is. -/
theorem commands_keep_to_their_indexes {ρ : Type} [Clock τ] (server : IndexServer σ)
    (env : Environment) (words console : List String) (s : σ) (work : IndexWork ρ τ)
    (operations : List (IndexOperation τ)) (r : ρ) :
    (∃ exit shown log s', (runWords server env words).run (console, s) = (exit, shown, s') ∧
      (runWords server.recorded env words).run (console, [], s) = (exit, shown, log, s') ∧
      Guarded server env words s exit log s') ∧
    ∃ log, (∀ before, work.recorded.performAll operations (before, r)
        = (before ++ log, work.performAll operations r)) ∧
      log.Within work.settings ∧
      ∀ (ι : Type) (inventory : Inventory work.service ι) collection name,
        ¬ work.settings.Manages collection name →
        inventory.index (work.performAll operations r) collection name
          = inventory.index r collection name := by
  obtain ⟨exit, shown, log, s', plain, twin, ends⟩ := ends_runWords server env words console s
  obtain ⟨calls, recorded, course⟩ := work.exists_performAll operations r
  refine ⟨⟨exit, shown, log, s', plain, twin, ends.guarded⟩, calls, recorded, course.within, ?_⟩
  intro ι inventory collection name apart
  exact course.frame inventory apart

/-- A drop that is not confirmed ends with a failure, past the ping; a confirmed one leaves the
indexes of other names alone. -/
theorem commands_keep_to_scripted_indexes :
    ((runWords Scripted.server [(connectionVariable, "mongodb://localhost")] ["drop"]).run
      ([], ⟨fun _ _ => some [], []⟩)).1 = .ok .failure ∧
    ((runWords Scripted.server [(connectionVariable, "mongodb://localhost")]
      ["drop", "--confirm"]).run ([], ⟨fun _ _ => some [], []⟩)).2.2.index
        "sample_mflix.movies" "other" = some [] := by
  have keep := fun words => (commands_keep_to_their_indexes Scripted.server
    [(connectionVariable, "mongodb://localhost")] words [] ⟨fun _ _ => some [], []⟩
    (Sandbox.sampleWork (2 : Rat)) [] (Sandbox.lingering .forever)).1
  constructor
  · obtain ⟨exit, shown, log, s', plain, -, guarded⟩ := keep ["drop"]
    have away := (guarded.unconfirmed _ rfl rfl).2 _ _ _ ⟨rfl, rfl, rfl⟩
    rw [plain]
    exact away.addressed _ _ rfl
  · obtain ⟨exit, shown, log, s', plain, -, guarded⟩ := keep ["drop", "--confirm"]
    have kept := guarded.frame _ Scripted.inventory (fun _ _ => rfl) (fun _ => rfl) (fun _ => rfl)
      "sample_mflix.movies" "other"
    rw [plain]
    refine kept fun settings hs => ?_
    cases hs
    intro managed
    obtain ⟨place, -, other, -⟩ := managed
    exact absurd other (by decide)

end IndexServer
end DocSearch
