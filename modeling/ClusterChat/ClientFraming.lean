import ClusterChat.Client
import ClusterChat.Framing
import ClusterChat.Library.Delimited
import ClusterChat.Library.Returns

/-!
# What one connection's bytes make the client do

The server writes its messages to a client one after another, some with a newline
and most without. `readTaskHandler` takes whatever one `recv` returns, at most 1024
bytes, for one message. `handles_sent_iff` says for which cuts of the stream it handles
exactly the messages sent, in order, and does not end with an exception: those in
which every piece is the text of the next message with newlines around it at most.
Each message must also be one the client handles when it arrives whole.

Of the parser it is assumed, for the messages sent, that it takes a NUL for the end
of its input, reads a message back from its text with newlines around it, and
rejects a text that ends too early or goes on after the message. The texts are those
of objects, which end by themselves.

Nothing is said about a connection that is closed, or about which exception ends
the client.
-/

namespace ClusterChat.ClientFraming

open Client ChatService
open Except (Returns bind_eq_ok)

/-- The byte a message of the callback ends with. -/
def newline : UInt8 := 10

/-- A byte that a text can begin with: neither whitespace nor the NUL that ends the
parser's input. -/
def Opens (byte : UInt8) : Prop := byte ∉ [9, 10, 13, 32, (0 : UInt8)]

instance (byte : UInt8) : Decidable (Opens byte) := inferInstanceAs (Decidable (_ ∉ _))

/-- What is assumed of the parser on the messages sent. -/
structure Parses (read : List UInt8 → Option Json) (dump : Json → List UInt8)
    (messages : List Json) : Prop where
  endsAtNul : ∀ buf, read buf = read (Chunks.trim 0 buf)
  delimits : Chunks.Delimits newline Opens dump read messages

/-- The parser does not look past the bytes received. -/
theorem read_recvBuffer (read : List UInt8 → Option Json)
    (endsAtNul : ∀ buf, read buf = read (Chunks.trim 0 buf)) (piece : List UInt8) :
    read (recvBuffer piece) = read piece := by
  rw [endsAtNul, recvBuffer, Chunks.trim_padded, ← endsAtNul]

/-- A parse that threw nothing has a value. -/
theorem of_parsed (result : Option Json) (js : Json) (ended : parsed result = .ok js) :
    result = some js := by
  cases result with
  | none => cases ended
  | some value =>
    cases ended
    rfl

/-- The client handles the messages one after another. -/
def handleAll (parse : String → Option Json) (client : Client) (messages : List Json) :
    Except Uncaught Client :=
  messages.foldlM (handle parse) client

/-- The loop handles these messages exactly when the buffers are parsed as them and
none of them throws. -/
theorem readTaskHandler_ok (parse : String → Option Json) (read : List UInt8 → Option Json)
    (pieces : List (List UInt8)) (messages : List Json) (client left : Client) :
    readTaskHandler parse read pieces client = .ok (messages, left) ↔
      pieces.map (fun piece => read (recvBuffer piece)) = messages.map some ∧
        handleAll parse client messages = .ok left := by
  induction pieces generalizing messages client with
  | nil =>
    cases messages with
    | nil => simp [readTaskHandler, handleAll, pure, Except.pure]
    | cons js rest => simp [readTaskHandler, pure, Except.pure]
  | cons piece rest inductionHypothesis =>
    rw [readTaskHandler, bind_eq_ok, List.map_cons]
    constructor
    · rintro ⟨js, parsed, later⟩
      obtain ⟨next, handled, later⟩ := (bind_eq_ok _ _ _).mp later
      obtain ⟨⟨others, last⟩, looped, ended⟩ := (bind_eq_ok _ _ _).mp later
      cases ended
      obtain ⟨read_, following⟩ := (inductionHypothesis others next).mp looped
      refine ⟨?_, (bind_eq_ok _ _ _).mpr ⟨next, handled, following⟩⟩
      rw [List.map_cons, read_, of_parsed _ _ parsed]
    · rintro ⟨reads, handled⟩
      cases messages with
      | nil => cases reads
      | cons js others =>
        obtain ⟨first, later⟩ := List.cons.inj reads
        obtain ⟨next, started, following⟩ := (bind_eq_ok _ _ _).mp handled
        refine ⟨js, by rw [first]; rfl, (bind_eq_ok _ _ _).mpr ⟨next, started, ?_⟩⟩
        have looped := (inductionHypothesis others next).mpr ⟨later, following⟩
        exact (bind_eq_ok _ _ _).mpr ⟨(others, left), looped, rfl⟩

/-- However the stream of messages is cut, the client handles exactly the messages
sent, in order, and never looks past the bytes received, if and only if every piece
is the next message with newlines around it and each message is handled on its own. -/
theorem handles_sent_iff (parse : String → Option Json) (read : List UInt8 → Option Json)
    (dump : Json → List UInt8) (frames : List (Json × Bool)) (pieces : List (List UInt8))
    (client : Client) (parses : Parses read dump (frames.map Prod.fst))
    (cut : pieces.flatten = Chunks.stream newline dump frames) :
    ((∃ left, readTaskHandler parse read pieces client = .ok (frames.map Prod.fst, left)) ∧
        ∀ piece ∈ pieces, read (recvBuffer piece) = read piece) ↔
      Chunks.Wrapped newline dump (frames.map Prod.fst) pieces ∧
        Returns (handleAll parse client (frames.map Prod.fst)) := by
  have received : pieces.map (fun piece => read (recvBuffer piece)) = pieces.map read :=
    List.map_congr_left fun piece _ => read_recvBuffer read parses.endsAtNul piece
  have aligned := Chunks.reads_iff_wrapped frames pieces parses.delimits cut
  constructor
  · rintro ⟨⟨left, ended⟩, _⟩
    obtain ⟨reads, handled⟩ := (readTaskHandler_ok parse read pieces _ client left).mp ended
    rw [received] at reads
    exact ⟨aligned.mp reads, left, handled⟩
  · rintro ⟨wrapped, left, handled⟩
    refine ⟨⟨left, (readTaskHandler_ok parse read pieces _ client left).mpr ⟨?_, handled⟩⟩,
      fun piece _ => read_recvBuffer read parses.endsAtNul piece⟩
    rw [received]
    exact aligned.mpr wrapped

/-- A text longer than the buffer fits in no piece. -/
theorem oversized_never (dump : Json → List UInt8) (messages : List Json)
    (pieces : List (List UInt8)) (fits : ∀ piece ∈ pieces, piece.length ≤ 1024) (js : Json)
    (sent : js ∈ messages) (long : 1024 < (dump js).length) :
    ¬ Chunks.Wrapped newline dump messages pieces := by
  intro wrapped
  induction wrapped with
  | nil => cases sent
  | @cons piece value rest others wraps later inductionHypothesis =>
    rcases List.mem_cons.mp sent with rfl | inRest
    · obtain ⟨before, after, whole⟩ := wraps
      have short := fits piece List.mem_cons_self
      rw [whole] at short
      simp only [List.length_append, List.length_replicate] at short
      omega
    · exact inductionHypothesis (fun other member => fits other (List.mem_cons_of_mem _ member))
        inRest

/-!
## Two acknowledgements
-/

/-- The parser on buffers that hold the acknowledgement of a chat message, with any
newlines, or anything else. -/
def readAck (buf : List UInt8) : Option Json :=
  if Chunks.solid newline (Chunks.trim 0 buf) = Framing.ascii sentMessage then some sentMessage
  else none

/-- Trimming at the first NUL keeps what is known to have none. -/
theorem solid_trim (known rest : List UInt8) (noNul : 0 ∉ known) :
    Chunks.solid newline (Chunks.trim 0 (known ++ rest)) =
      Chunks.solid newline known ++ Chunks.solid newline (Chunks.trim 0 rest) := by
  rw [Chunks.trim, List.takeWhile_append_of_pos, Chunks.solid, List.filter_append]
  · rfl
  · intro byte member
    have nonzero : byte ≠ 0 := fun zero => noNul (zero ▸ member)
    simpa using nonzero

/-- A text without a NUL is kept whole. -/
theorem solid_trim_whole (known : List UInt8) (noNul : 0 ∉ known) :
    Chunks.solid newline (Chunks.trim 0 known) = Chunks.solid newline known := by
  have through := solid_trim known [] noNul
  rw [List.append_nil] at through
  rw [through]
  exact List.append_nil _

/-- Newlines before a text are not part of it. -/
theorem solid_newlines (count : Nat) (text : List UInt8) (unbroken : newline ∉ text) :
    Chunks.solid newline (List.replicate count newline ++ text) = text := by
  have kept : Chunks.solid newline text = text := by
    rw [Chunks.solid, List.filter_eq_self]
    intro byte member
    have differs : byte ≠ newline := fun same => unbroken (same ▸ member)
    simpa using differs
  rw [Chunks.solid, List.filter_append]
  simp only [Chunks.solid] at kept
  rw [kept]
  simp

/-- Neither NUL nor newline occurs in the acknowledgement. -/
theorem ascii_ack : 0 ∉ Framing.ascii sentMessage ∧ newline ∉ Framing.ascii sentMessage := by
  decide

/-- Newlines before a text bring no NUL. -/
theorem nul_newlines (count : Nat) (text : List UInt8) (noNul : 0 ∉ text) :
    0 ∉ List.replicate count newline ++ text := by
  simp [newline, noNul]

/-- A piece that wraps the acknowledgement has no NUL, and it alone is left without
the newlines. -/
theorem wraps_ack (piece : List UInt8)
    (wraps : Chunks.Wraps newline (Framing.ascii sentMessage) piece) :
    0 ∉ piece ∧ Chunks.solid newline piece = Framing.ascii sentMessage := by
  obtain ⟨before, after, rfl⟩ := wraps
  constructor
  · have first := nul_newlines before _ ascii_ack.1
    simpa [newline] using first
  · have first := solid_newlines before _ ascii_ack.2
    rw [Chunks.solid, List.filter_append]
    simp only [Chunks.solid] at first
    rw [first]
    simp

/-- The example's parser reads the acknowledgement. -/
theorem readAck_parses (messages : List Json) (only : ∀ js ∈ messages, js = sentMessage) :
    Parses readAck Framing.ascii messages where
  endsAtNul := fun buf => by rw [readAck, readAck, Framing.trim_trim]
  delimits := {
    silent := fun count => by
      have blank := solid_newlines count [] List.not_mem_nil
      have noNul := nul_newlines count [] List.not_mem_nil
      rw [List.append_nil] at blank noNul
      rw [readAck, solid_trim_whole _ noNul, blank, if_neg (by decide)]
    back := fun js member piece wraps => by
      rw [only js member] at wraps ⊢
      obtain ⟨noNul, left⟩ := wraps_ack piece wraps
      rw [readAck, solid_trim_whole piece noNul, left, if_pos rfl]
    begins := fun js member => by
      rw [only js member]
      exact ⟨123, _, rfl, by decide⟩
    unfinished := fun js member before part missing text cut => by
      rw [only js member] at text
      have noNul : 0 ∉ part := fun inside => ascii_ack.1 (text ▸ List.mem_append_left _ inside)
      have unbroken : newline ∉ part :=
        fun inside => ascii_ack.2 (text ▸ List.mem_append_left _ inside)
      rw [readAck, solid_trim_whole _ (nul_newlines before part noNul),
        solid_newlines before part unbroken, if_neg]
      intro whole
      rw [← whole] at text
      exact cut (List.self_eq_append_right.mp text)
    overfull := fun js member piece wraps symbol rest opens => by
      rw [only js member] at wraps
      obtain ⟨noNul, left⟩ := wraps_ack piece wraps
      have through := solid_trim piece (symbol :: rest) noNul
      rw [readAck, through, left, if_neg]
      have notNul : symbol ≠ 0 := fun same => opens (by simp [same])
      have notNewline : symbol ≠ newline := fun same => opens (by simp [same, newline])
      simp [Chunks.trim, Chunks.solid, notNul, notNewline] }

/-- Two acknowledgements, the second with a newline, delivered one by one. -/
theorem handles_sent_iff_acks :
    ((∃ left, readTaskHandler (fun _ => none) readAck
        [Framing.ascii sentMessage, Framing.ascii sentMessage ++ [newline]] {} =
          .ok ([sentMessage, sentMessage], left)) ∧
      ∀ piece ∈ [Framing.ascii sentMessage, Framing.ascii sentMessage ++ [newline]],
        readAck (recvBuffer piece) = readAck piece) ↔
    Chunks.Wrapped newline Framing.ascii [sentMessage, sentMessage]
        [Framing.ascii sentMessage, Framing.ascii sentMessage ++ [newline]] ∧
      Returns (handleAll (fun _ => none) {} [sentMessage, sentMessage]) :=
  handles_sent_iff (fun _ => none) readAck Framing.ascii [(sentMessage, false), (sentMessage, true)]
    [Framing.ascii sentMessage, Framing.ascii sentMessage ++ [newline]] {}
    (readAck_parses _ (by simp)) (by simp [Chunks.stream])

/-- Two acknowledgements that arrive in one piece end the client. -/
theorem merged_acks_end_client : ¬ ∀ parse read dump frames pieces client,
    Parses read dump (frames.map Prod.fst) →
    (∀ piece ∈ pieces, 0 < piece.length ∧ piece.length ≤ 1024) →
    pieces.flatten = Chunks.stream newline dump frames →
    Returns (handleAll parse client (frames.map Prod.fst)) →
    ∃ left, readTaskHandler parse read pieces client = .ok (frames.map Prod.fst, left) := by
  intro framed
  obtain ⟨left, ended⟩ := framed (fun _ => none) readAck Framing.ascii
    [(sentMessage, false), (sentMessage, false)]
    [Framing.ascii sentMessage ++ Framing.ascii sentMessage] {} (readAck_parses _ (by simp))
    (by decide) (by simp [Chunks.stream]) ⟨{}, rfl⟩
  obtain ⟨reads, _⟩ := (readTaskHandler_ok _ _ _ _ _ _).mp ended
  cases reads

end ClusterChat.ClientFraming
