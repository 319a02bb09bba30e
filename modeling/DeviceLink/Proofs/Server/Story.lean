-- The story of a server: its run, moment by moment, with what each connection did and what was done
-- to the registry. The server itself keeps no such record; it is read off the moments.
import DeviceLink.Proofs.Registry.Removal
import DeviceLink.Proofs.Server.Announcement

namespace DeviceLink.Server

open Registry (Operation gather removes)

/-! ## Moments -/

/-- A server, with the hooks that are in force, and what happens to it. -/
structure Moment where
  server : Server
  event : Event

/-- A run moment by moment. Hooks may react differently each time. -/
inductive Story (s : Server) : List Moment → Server → Prop
  | nil : Story s [] s
  | snoc {past : List Moment} {t t' : Server} {e : Event} (told : Story s past t) (hooks : Hooks)
      (step : { t with hooks }.step? e = some t') : Story s (past ++ [⟨{ t with hooks }, e⟩]) t'

/-- The moments of a run in which the hooks stay the same. -/
def tell (s : Server) : List Event → List Moment
  | [] => []
  | e :: es => ⟨s, e⟩ :: ((s.step? e).getD s).tell es

theorem Story.append_tell {s t t' : Server} {past : List Moment} {es : List Event}
    (told : Story s past t) (run : t.run? es = some t') : Story s (past ++ t.tell es) t' := by
  induction es generalizing past t with
  | nil =>
    cases run
    rwa [tell, List.append_nil]
  | cons e es ih =>
    obtain ⟨t₁, step, rest⟩ := Option.bind_eq_some_iff.1 run
    have later := ih (told.snoc t.hooks step) rest
    rwa [tell, step, Option.getD_some, List.append_cons]

/-- Every run has its story. -/
theorem story_tell {s s' : Server} {es : List Event} (run : s.run? es = some s') :
    Story s (s.tell es) s' := Story.append_tell .nil run

/-- Stories one after another are one story. -/
theorem Story.append {s t t' : Server} {before after : List Moment} (told : Story s before t)
    (later : Story t after t') : Story s (before ++ after) t' := by
  induction later with
  | nil =>
    rw [List.append_nil]
    exact told
  | snoc _ hooks step ih =>
    rw [← List.append_assoc]
    exact ih.snoc hooks step

theorem tell_append {s t : Server} {es es' : List Event} (run : s.run? es = some t) :
    s.tell (es ++ es') = s.tell es ++ t.tell es' := by
  induction es generalizing s with
  | nil =>
    cases run
    rfl
  | cons e es ih =>
    obtain ⟨s₁, step, rest⟩ := Option.bind_eq_some_iff.1 run
    rw [List.cons_append, tell, tell, step, Option.getD_some, ih rest]
    rfl

theorem tell_append_cons {s t t' : Server} {es es' : List Event} {e : Event}
    (run : s.run? es = some t) (step : t.step? e = some t') :
    s.tell (es ++ e :: es') = s.tell es ++ ⟨t, e⟩ :: t'.tell es' := by
  rw [tell_append run, tell, step, Option.getD_some]

/-! ## What connections do -/

/-- What counts in the life of a connection. -/
inductive Deed
  /-- It said who it is. -/
  | identified (h : Handle)
  | registered (h : Handle)
  /-- The hook for devices that come was called. -/
  | connected (h : Handle)
  /-- It gave up its entry. -/
  | removed (h : Handle)
  /-- The hook for devices that go was called. -/
  | disconnected (h : Handle)
deriving Repr, DecidableEq

/-- What a connection does when it moves on from a place. -/
def Place.deed? (h : Handle) : Place → Option Deed
  | .named => some (.registered h)
  | .greeted => some (.connected h)
  | .leaving => some (.removed h)
  | .departed => some (.disconnected h)
  | _ => none

/-- What a connection has done that has come to a place. -/
def Place.deeds (h : Handle) : Place → List Deed
  | .named => [.identified h]
  | .entered | .announced | .greeted => [.identified h, .registered h]
  | .ready | .waiting | .leaving => [.identified h, .registered h, .connected h]
  | .removed | .judged _ | .departed => [.identified h, .registered h, .connected h, .removed h]
  | .parted => [.identified h, .registered h, .connected h, .removed h, .disconnected h]

/-- The device that the first frame of some bytes names. -/
def firstDevice? (cap : Nat) (bytes : Bytes) : Option DeviceId :=
  (Frame.decode? cap bytes).bind fun (f, _) => DeviceId.ofWire? f.payload

/-- The handle that a connection takes as it reads who it is. -/
def newHandle? (s : Server) (c : ClientId) : Option Handle := do
  let conn ← s.connections[c]?
  guard (conn.stage = .handshake)
  let device ← firstDevice? s.cap conn.inbox
  return (s.registry.connect device conn.peer).1

/-- What a connection does at a moment. -/
def Moment.deedsOf (m : Moment) (c : ClientId) : List Deed :=
  match m.event with
  | .read c' => if c' = c then (m.server.newHandle? c).toList.map .identified else []
  | .proceed c' =>
    if c' = c then ((m.server.standing? c).bind fun (h, place) => place.deed? h).toList else []
  | _ => []

/-- The bytes that arrive from a client at a moment. -/
def Moment.bytesFrom (m : Moment) (c : ClientId) : Bytes :=
  match m.event with
  | .arrive c' bytes => if c' = c then bytes else []
  | _ => []

/-- What a connection did in a story. -/
def life (story : List Moment) (c : ClientId) : List Deed := story.flatMap (·.deedsOf c)

/-- The bytes that arrived from a client in a story. -/
def bytesFrom (story : List Moment) (c : ClientId) : Bytes := story.flatMap (·.bytesFrom c)

/-! ## What is done to the registry -/

/-- What a connection does to the registry when it moves on from a place. -/
def doings (s : Server) (h : Handle) : Place → List Operation
  | .named => [.register h]
  | .entered => [.broadcast h.device.text (onlineMessage h.device)]
  | .announced => [.send h.conn (greeting h.device)]
  | .greeted => (s.hooks.connected h).operations
  | .leaving => [.unregisterConnection h.conn]
  | .judged false => [.broadcast h.device.text (offlineMessage h.device)]
  | .departed => (s.hooks.disconnected h.device).operations
  | .parted => [.dropWriter h.conn]
  | _ => []

/-- What is done to the registry as a connection takes a frame. -/
def intake (s : Server) (c : ClientId) : List Operation :=
  match s.connections[c]? with
  | none => []
  | some conn =>
    match Frame.decode? s.cap conn.inbox, conn.stage with
    | some (f, _), .handshake =>
      (DeviceId.ofWire? f.payload).toList.map fun device => .connect device conn.peer
    | some (f, _), .identified h .waiting =>
      match s.hooks.sink with
      | some sink => (sink h f).operations
      | none => [.send h.conn f.payload]
    | _, _ => []

/-- The handle of a connection, if it has one. -/
def handleOf? (s : Server) (c : ClientId) : Option Handle := s.connections[c]?.bind (·.handle?)

variable (acts : Request → Registry → List Operation)

/-- A handler does to the registry what is said of it. -/
def Does (acts : Request → Registry → List Operation) (handler : Handler) : Prop :=
  ∀ request registry, (handler request registry).2 = registry.after (acts request registry)

/-- What is done to the registry at a moment. -/
def Moment.operations (m : Moment) : List Operation :=
  match m.event with
  | .proceed c => ((m.server.standing? c).map fun (h, place) => m.server.doings h place).getD []
  | .read c => m.server.intake c
  | .expire c =>
    match m.server.standing? c with
    | some (h, .parted) => [.dropWriter h.conn]
    | _ => []
  | .noticeClose c => (m.server.handleOf? c).toList.map fun h => .noticeClose h.conn
  | .write c => (m.server.handleOf? c).toList.map fun h => .drain h.conn
  | .failWrite c => (m.server.handleOf? c).toList.map fun h => .dropWriter h.conn
  | .operate op => [op]
  | .exchange source =>
    match (Exchange.Inbound.read m.server.limit source).1 with
    | .ok (.request request) => acts request m.server.registry
    | _ => []
  | .finishStop => [.closeAll]
  | _ => []

/-- The entries that were taken away in a story. -/
def removed (story : List Moment) : List Handle :=
  story.flatMap fun m => gather removes m.server.registry (m.operations acts)

/-- The handles that operations register. -/
def registeredBy (ops : List Operation) : List Handle :=
  ops.filterMap fun
    | .register h => some h
    | _ => none

/-- The handles that hooks, handlers and other users of the registry register at a moment. -/
def Moment.outsiders (m : Moment) : List Handle :=
  match m.event with
  | .proceed c =>
    match m.server.standing? c with
    | some (_, .named) => []
    | _ => registeredBy (m.operations acts)
  | _ => registeredBy (m.operations acts)

/-! ## What is noted -/

/-- How the call of a hook for devices that come or go is noted. -/
def Deed.occasion? : Deed → Option Occasion
  | .connected h => some (.online h)
  | .disconnected h => some (.offline h.device)
  | _ => none

/-- The call is not for a frame. -/
def Occasion.isPassage : Occasion → Bool
  | .online _ | .offline _ => true
  | .message _ _ => false

/-- The noted calls of the hooks for devices that come or go. -/
def passages (s : Server) : List Occasion := (s.notes.map (·.occasion)).filter (·.isPassage)

/-- The call of a hook for devices that come or go at a moment. -/
def Moment.call? (m : Moment) : Option Occasion :=
  match m.event with
  | .proceed c => (m.server.standing? c).bind fun (h, place) => (place.deed? h).bind (·.occasion?)
  | _ => none

/-- The calls of the hooks for devices that come or go in a story. -/
def calls (story : List Moment) : List Occasion := story.filterMap (·.call?)

/-- The calls of these hooks in the life of a connection. -/
def callsFor (story : List Moment) (c : ClientId) : List Occasion :=
  (life story c).filterMap (·.occasion?)

end DeviceLink.Server
