/-
# Telemetry sinks

A sink of telemetry has one method for each kind of record, and one for single
debug values.  Every record is passed to the method of its kind and to no other.
A method that a sink leaves out does nothing, but for that of debug reports,
which then tells of the values one by one.
-/
import ControllerLink.Record.Telemetry

set_option autoImplicit false

namespace ControllerLink

/-- A sink of telemetry: what each of its methods makes of its state. -/
structure Sink (σ : Type) where
  onDebugValue : σ → String → Single → σ := fun s _ _ => s
  /-- Where it is left out, the named values of a report are told one by one. -/
  onDebug : σ → DebugReport → σ := fun s r =>
    r.namedValues.foldl (fun s v => onDebugValue s v.1 v.2) s
  onImu : σ → ImuReading → σ := fun s _ => s
  onFieldEvents : σ → FieldEvents → σ := fun s _ => s
  onHitPoints : σ → HitPoints → σ := fun s _ => s
  onGameStatus : σ → GameStatus → σ := fun s _ => s
  onRobotMotion : σ → RobotMotion → σ := fun s _ => s
  onGroundPositions : σ → GroundPositions → σ := fun s _ => s
  onRfidStatus : σ → RfidStatus → σ := fun s _ => s
  onRobotStatus : σ → RobotStatus → σ := fun s _ => s
  onGimbal : σ → GimbalCommand → σ := fun s _ => s
  onShoot : σ → ShootCommand → σ := fun s _ => s

namespace Sink

variable {σ : Type}

/-- Pass a record to the method of its kind. -/
def dispatch (sink : Sink σ) (s : σ) : Telemetry → σ
  | .debug r => sink.onDebug s r
  | .imu r => sink.onImu s r
  | .fieldEvents r => sink.onFieldEvents s r
  | .hitPoints r => sink.onHitPoints s r
  | .gameStatus r => sink.onGameStatus s r
  | .robotMotion r => sink.onRobotMotion s r
  | .groundPositions r => sink.onGroundPositions s r
  | .rfidStatus r => sink.onRfidStatus s r
  | .robotStatus r => sink.onRobotStatus s r
  | .gimbal r => sink.onGimbal s r
  | .shoot r => sink.onShoot s r

/-- The sink that does the same with every record, by each of its methods. -/
def alike (tell : σ → Telemetry → σ) : Sink σ where
  onDebug s r := tell s (.debug r)
  onImu s r := tell s (.imu r)
  onFieldEvents s r := tell s (.fieldEvents r)
  onHitPoints s r := tell s (.hitPoints r)
  onGameStatus s r := tell s (.gameStatus r)
  onRobotMotion s r := tell s (.robotMotion r)
  onGroundPositions s r := tell s (.groundPositions r)
  onRfidStatus s r := tell s (.rfidStatus r)
  onRobotStatus s r := tell s (.robotStatus r)
  onGimbal s r := tell s (.gimbal r)
  onShoot s r := tell s (.shoot r)

/-- The sink that does the same with every record but debug reports, which it takes value by
value. -/
def byValue (tellValue : σ → String → Single → σ) (tell : σ → Telemetry → σ) : Sink σ where
  onDebugValue := tellValue
  onImu s r := tell s (.imu r)
  onFieldEvents s r := tell s (.fieldEvents r)
  onHitPoints s r := tell s (.hitPoints r)
  onGameStatus s r := tell s (.gameStatus r)
  onRobotMotion s r := tell s (.robotMotion r)
  onGroundPositions s r := tell s (.groundPositions r)
  onRfidStatus s r := tell s (.rfidStatus r)
  onRobotStatus s r := tell s (.robotStatus r)
  onGimbal s r := tell s (.gimbal r)
  onShoot s r := tell s (.shoot r)

/-- **A record goes to the method of its kind**, once and as it is: a sink that tells the methods
apart by the records alone misses none and takes none for another. -/
theorem dispatch_alike (tell : σ → Telemetry → σ) (s : σ) (t : Telemetry) :
    (alike tell).dispatch s t = tell s t := by
  cases t <;> rfl

/-- The sink that keeps every record, in the order in which its methods are called. -/
def recording : Sink (List Telemetry) :=
  alike fun told t => told ++ [t]

@[simp] theorem dispatch_recording (told : List Telemetry) (t : Telemetry) :
    recording.dispatch told t = told ++ [t] :=
  dispatch_alike _ told t

end Sink

/-- One thing that a sink is told which takes debug reports value by value. -/
inductive SinkCall where
  | debugValue (name : String) (value : Single)
  | record (t : Telemetry)
deriving DecidableEq, Repr

/-- The sink that keeps what it is told, debug reports value by value. -/
def Sink.listening : Sink (List SinkCall) :=
  byValue (fun calls name value => calls ++ [.debugValue name value])
    fun calls t => calls ++ [.record t]

/-- What a sink that takes debug reports value by value is told of a record. -/
def Telemetry.sinkCalls (t : Telemetry) : List SinkCall := Sink.listening.dispatch [] t

/-- Of a debug report it is told each value that has a name. -/
theorem Telemetry.sinkCalls_debug (r : DebugReport) :
    (debug r).sinkCalls = r.namedValues.map fun v => .debugValue v.1 v.2 := by
  have hfoldl : ∀ (values : List (String × Single)) (calls : List SinkCall),
      values.foldl (fun calls v => calls ++ [SinkCall.debugValue v.1 v.2]) calls =
        calls ++ values.map fun v => .debugValue v.1 v.2 := by
    intro values
    induction values with
    | nil => intro calls; exact (List.append_nil calls).symm
    | cons v values ih =>
      intro calls
      rw [List.foldl_cons, ih, List.append_assoc, List.singleton_append, List.map_cons]
  exact hfoldl r.namedValues []

/-- **What a sink is told decides what becomes of it**, if it takes debug reports value by value. -/
theorem Sink.dispatch_byValue {σ : Type} (tellValue : σ → String → Single → σ)
    (tell : σ → Telemetry → σ) (s : σ) (t : Telemetry) :
    (byValue tellValue tell).dispatch s t = t.sinkCalls.foldl (fun s call =>
      match call with
      | .debugValue name value => tellValue s name value
      | .record t => tell s t) s := by
  cases t with
  | debug r =>
    rw [Telemetry.sinkCalls_debug, List.foldl_map]
    rfl
  | _ => rfl

end ControllerLink
