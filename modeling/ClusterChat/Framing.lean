import ClusterChat.Library.Chunks
import ClusterChat.Service

/-!
# What one connection's bytes invoke

`ChatServer::onMessage` takes everything the buffer holds, parses it as one JSON
text and dispatches it. The client writes its requests one after another, a
registration with the NUL of its C string. Nothing on either side marks where a
request ends, so what is invoked depends on how the stream reaches the buffer.

The parser and the printer of the JSON library are parameters. Of the parser it is
assumed, for the requests sent, that it reads back what the printer wrote, takes a
NUL for the end of its input, rejects the empty text, and accepts no text of a
request shorter than the printed one, which is compact. `framing_iff` says exactly
which cuts of the stream invoke the handlers for the requests sent: those in which
every buffer, up to its first NUL, is empty or one whole request.
-/

namespace ClusterChat

/-- `ChatServer::onMessage`, for the bytes the buffer holds. Exceptions of the
parser and of the handlers are caught. -/
def ChatServer.onMessage (parse : List UInt8 → Option Json) (conn : Conn) (w : World)
    (buf : List UInt8) : World :=
  match parse buf with
  | some js => (ChatService.dispatch conn js w).2
  | none => w

namespace Framing

/-- The handler a request names. -/
def handlerOf (js : Json) : Option (Conn → Json → Handler Unit) :=
  match js.int "msgid" with
  | .ok msgid => ChatService.getHandler msgid
  | .error _ => none

/-- The request a buffer is handled as, if a handler is invoked for it. -/
def invoked (parse : List UInt8 → Option Json) (buf : List UInt8) : Option Json :=
  (parse buf).filter (fun js => (handlerOf js).isSome)

/-- The requests handlers are invoked for, in order, while the buffers arrive. -/
def invocations (parse : List UInt8 → Option Json) (bufs : List (List UInt8)) : List Json :=
  Chunks.readEach (invoked parse) bufs

/-- Run the handler of a request. -/
def handle (conn : Conn) (w : World) (js : Json) : World :=
  match handlerOf js with
  | some handler => (handler conn js w).2
  | none => w

/-- A buffer runs the handler it is an invocation of, and nothing otherwise. -/
theorem onMessage_invoked (parse : List UInt8 → Option Json) (conn : Conn) (w : World)
    (buf : List UInt8) : ChatServer.onMessage parse conn w buf =
      ((invoked parse buf).map (handle conn w)).getD w := by
  unfold ChatServer.onMessage invoked
  cases parse buf with
  | none => rfl
  | some js =>
    simp only [ChatService.dispatch, handlerOf, Option.filter_some]
    cases named : js.int "msgid" with
    | error exception => simp [convert, Effect.bind_apply, Except.mapError]
    | ok msgid =>
      cases found : ChatService.getHandler msgid with
      | none => simp [convert, Effect.bind_apply, Except.mapError, found]
      | some handler =>
        simp [convert, Effect.bind_apply, Except.mapError, found, handle, handlerOf, named]

/-- The world after the buffers is the one the invocations lead to. -/
theorem onMessage_run (parse : List UInt8 → Option Json) (conn : Conn) (bufs : List (List UInt8))
    (w : World) : bufs.foldl (ChatServer.onMessage parse conn) w =
      (invocations parse bufs).foldl (handle conn) w := by
  induction bufs generalizing w with
  | nil => rfl
  | cons buf rest inductionHypothesis =>
    rw [List.foldl_cons, inductionHypothesis, onMessage_invoked]
    unfold invocations Chunks.readEach
    cases found : invoked parse buf with
    | none => simp [found]
    | some js => simp [found]

/-- What is assumed of the JSON library on the requests sent. -/
structure Parses (parse : List UInt8 → Option Json) (dump : Json → List UInt8)
    (requests : List Json) : Prop where
  endsAtNul : ∀ buf, parse buf = parse (Chunks.trim 0 buf)
  rejectsNothing : parse [] = none
  roundTrip : ∀ js ∈ requests, parse (dump js) = some js
  writesNoNul : ∀ js ∈ requests, 0 ∉ dump js
  writesSomething : ∀ js ∈ requests, dump js ≠ []
  compact : ∀ js ∈ requests, ∀ buf, parse buf = some js →
    (dump js).length ≤ (Chunks.trim 0 buf).length

/-- Dispatch reads the requests of a connection as the chunk reader assumes. -/
theorem reads_of_parses (parse : List UInt8 → Option Json) (dump : Json → List UInt8)
    (requests : List Json) (parses : Parses parse dump requests)
    (handled : ∀ js ∈ requests, (handlerOf js).isSome = true) :
    Chunks.Reads 0 dump (invoked parse) requests where
  stops := fun buf => by rw [invoked, invoked, parses.endsAtNul]
  nothing := by rw [invoked, parses.rejectsNothing]; rfl
  back := fun js member => by
    rw [invoked, parses.roundTrip js member]
    simp [handled js member]
  free := parses.writesNoNul
  inhabited := parses.writesSomething
  shortest := fun js member buf read => by
    obtain ⟨parsed, _⟩ := Option.filter_eq_some_iff.mp read
    exact parses.compact js member buf parsed

/-- However the stream of a connection is cut, the handlers are invoked for
exactly the requests sent, once each and in order, if and only if every buffer up
to its first NUL is empty or the text of the next request. -/
theorem framing_iff (parse : List UInt8 → Option Json) (dump : Json → List UInt8)
    (frames : List (Json × Bool)) (bufs : List (List UInt8))
    (parses : Parses parse dump (frames.map Prod.fst))
    (handled : ∀ js ∈ frames.map Prod.fst, (handlerOf js).isSome = true)
    (cut : bufs.flatten = Chunks.stream 0 dump frames) :
    invocations parse bufs = frames.map Prod.fst ↔
      Chunks.Aligned 0 dump (frames.map Prod.fst) bufs :=
  Chunks.yields_iff_aligned 0 dump (invoked parse) frames bufs
    (reads_of_parses parse dump _ parses handled) cut

/-- A logout request and its text. -/
def logout : Json := .object [("id", .integer 1), ("msgid", .integer 3)]

/-- The bytes of a dump in ASCII. -/
def ascii (js : Json) : List UInt8 := js.dump.toList.map (fun char => char.toNat.toUInt8)

/-- The parser on buffers that hold one logout request or anything else that is
not a request. -/
def parseLogout (buf : List UInt8) : Option Json :=
  if Chunks.trim 0 buf = ascii logout then some logout else none

/-- A trimmed buffer has no NUL to be trimmed at. -/
theorem trim_trim (buf : List UInt8) : Chunks.trim 0 (Chunks.trim 0 buf) = Chunks.trim 0 buf := by
  simp [Chunks.trim, List.takeWhile_takeWhile]

/-- The example's parser reads the logout. -/
theorem parseLogout_parses (requests : List Json) (only : ∀ js ∈ requests, js = logout) :
    Parses parseLogout ascii requests where
  endsAtNul := fun buf => by rw [parseLogout, parseLogout, trim_trim]
  rejectsNothing := by decide
  roundTrip := fun js member => by rw [only js member, parseLogout, if_pos (by decide)]
  writesNoNul := fun js member => by rw [only js member]; decide
  writesSomething := fun js member => by rw [only js member]; decide
  compact := fun js member buf read => by
    unfold parseLogout at read
    split at read
    · rename_i whole
      rw [only js member, whole]
    · cases read

/-- The server handles it. -/
theorem handled_logout (requests : List Json) (only : ∀ js ∈ requests, js = logout) :
    ∀ js ∈ requests, (handlerOf js).isSome = true := by
  intro js member
  rw [only js member]
  rfl

/-- Two logouts, the first ended by a NUL. -/
theorem framing_logout :
    invocations parseLogout [ascii logout ++ [0], ascii logout] = [logout, logout] ↔
      Chunks.Aligned 0 ascii [logout, logout] [ascii logout ++ [0], ascii logout] :=
  framing_iff parseLogout ascii [(logout, true), (logout, false)]
    [ascii logout ++ [0], ascii logout] (parseLogout_parses _ (by simp))
    (handled_logout _ (by simp)) (by decide)

/-- Two requests that arrive in one buffer invoke nothing. -/
theorem framing_merged : ¬ ∀ parse dump frames bufs,
    Parses parse dump (frames.map Prod.fst) →
    (∀ js ∈ frames.map Prod.fst, (handlerOf js).isSome = true) →
    bufs.flatten = Chunks.stream 0 dump frames →
    invocations parse bufs = frames.map Prod.fst := by
  intro framed
  have both := framed parseLogout ascii [(logout, false), (logout, false)]
    [ascii logout ++ ascii logout] (parseLogout_parses _ (by simp)) (handled_logout _ (by simp))
    (by decide)
  have nothing : invoked parseLogout (ascii logout ++ ascii logout) = none := rfl
  simp [invocations, Chunks.readEach, nothing] at both

end Framing

end ClusterChat
