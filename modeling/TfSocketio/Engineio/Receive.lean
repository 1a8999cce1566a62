/-
# Engineio.Receive — what survives the way from the transport to the packet sequence.

Two questions about the receive path.  Does a websocket message arrive as the one packet it is?  A
binary frame is wrapped as `4 ++ data` and then goes through the payload decoder, which splits on
`0x1e`; so it does exactly when the data is nonempty and free of `0x1e` (`Transparent`).  Does long
polling depend on how the HTTP layer cuts a body?  The asynchronous transport hands every chunk to
the payload decoder, so it does not exactly when an accepted body comes in one piece
(`ArrivesWhole`).
-/
import TfSocketio.Engineio.Socket

namespace TfSocketio.Engineio

/-! ## Messages of a server -/

/-- A message a server sends: the text of one accepted packet, which does not hold the separator, or
an arbitrary byte string. -/
inductive ServerMessage (b64 : Base64Engine) where
  | text (str : Bytes) (packet : Packet) (accepted : Packet.tryFrom b64 str = .ok packet)
      (single : separator ∉ str)
  | binary (data : Bytes)

namespace ServerMessage

variable {b64 : Base64Engine}

/-- The data the message carries. -/
def data : ServerMessage b64 → Bytes
  | .text _ packet _ _ => packet.data
  | .binary data => data

/-- The websocket frame of the message. -/
def frame : ServerMessage b64 → Message
  | .text str _ _ _ => .text str
  | .binary data => .binary data

/-- The cell of the message in a polling body: binary data is base64 text behind a `b`. -/
def cell : ServerMessage b64 → Bytes
  | .text str _ _ _ => str
  | .binary data => base64Prefix :: b64.encode data

/-- The message arrives over a websocket as it is: its binary data is nonempty and does not hold the
payload separator. -/
def SingleFrame : ServerMessage b64 → Prop
  | .text _ _ _ _ => True
  | .binary data => data ≠ [] ∧ separator ∉ data

/-- The buffer the websocket transport returns for the message. -/
def buffer : ServerMessage b64 → Bytes
  | .text str _ _ _ => str
  | .binary data => PacketId.message.toU8 :: data

theorem received_frame (m : ServerMessage b64) :
    Websocket.received (.ok m.frame) = some (.ok m.buffer) := by
  cases m <;> rfl

theorem buffer_ne_nil (m : ServerMessage b64) : m.buffer ≠ [] := by
  cases m with
  | text str packet accepted single =>
      intro e
      have hnil : str = [] := e
      subst hnil
      simp at accepted
  | binary data => simp [buffer]

theorem separator_notMem_cell (m : ServerMessage b64) : separator ∉ m.cell := by
  cases m with
  | text str packet accepted single => exact single
  | binary data =>
      have h := b64.separator_notMem data
      have hne : separator ≠ base64Prefix := by decide
      simp only [cell, List.mem_cons, not_or]
      exact ⟨hne, h⟩

/-- The polling cell of every message decodes to one packet with the message's data. -/
theorem tryFrom_cell (m : ServerMessage b64) :
    ∃ p, Packet.tryFrom b64 m.cell = .ok p ∧ p.data = m.data := by
  cases m with
  | text str packet accepted single => exact ⟨packet, accepted, rfl⟩
  | binary data => exact ⟨⟨.messageBinary, data⟩, Packet.tryFrom_base64 b64 data, rfl⟩

/-- A `SingleFrame` message is one packet with its data. -/
theorem tryFrom_buffer_of_singleFrame {m : ServerMessage b64} (h : m.SingleFrame) :
    ∃ p, Payload.tryFrom b64 m.buffer = .ok [p] ∧ p.data = m.data := by
  cases m with
  | text str packet accepted single =>
      exact ⟨packet, Payload.tryFrom_single single accepted, rfl⟩
  | binary data =>
      obtain ⟨hne, hsep⟩ := h
      refine ⟨⟨.message, data⟩, Payload.tryFrom_single ?_ ?_, rfl⟩
      · have hid : separator ≠ PacketId.message.toU8 := by decide
        simp only [buffer, List.mem_cons, not_or]
        exact ⟨hid, hsep⟩
      · have hb : (4 : UInt8) ≠ base64Prefix := by decide
        simp [buffer, Packet.tryFrom, PacketId.toU8, PacketId.tryFrom, hb, hne]

/-- Any other message is rejected, or its first packet carries other data. -/
theorem tryFrom_buffer_of_not_singleFrame {m : ServerMessage b64} (h : ¬ m.SingleFrame)
    {ps : Payload} (hps : Payload.tryFrom b64 m.buffer = .ok ps) :
    ∃ p rest, ps = p :: rest ∧ p.data ≠ m.data := by
  cases m with
  | text str packet accepted single => exact absurd trivial h
  | binary data =>
      have hid : PacketId.message.toU8 ≠ base64Prefix := by decide
      have hne : PacketId.message.toU8 ≠ separator := by decide
      by_cases hsep : separator ∈ data
      · -- the data is cut at its first separator, the packet before it is too short
        obtain ⟨cut, rest, hdata, -, hcells⟩ := Split.splitOn_of_mem hsep
        have hsplit := Split.splitOn_cons_of_ne hne hcells
        rw [Payload.tryFrom, buffer, hsplit] at hps
        obtain ⟨p, ps', rfl, hp, -⟩ := mapM_cons_eq_ok hps
        refine ⟨p, ps', rfl, ?_⟩
        rw [Packet.data_of_tryFrom hid hp]
        intro e
        have hlen : cut.length = data.length := congrArg List.length e
        rw [hdata] at hlen
        simp at hlen
      · have hnil : data = [] := by
          by_contra hd
          exact h ⟨hd, hsep⟩
        subst hnil
        have hreject : Payload.tryFrom b64 (buffer (.binary [] : ServerMessage b64)) =
            .error .incompletePacket := by
          rw [Payload.tryFrom, buffer, Split.splitOn_of_notMem (by simpa using hne.symm)]
          exact mapM_cons_error (by simp [Packet.tryFrom, PacketId.toU8, PacketId.tryFrom,
            base64Prefix])
        rw [hreject] at hps
        simp at hps

end ServerMessage

section Websocket

variable {b64 : Base64Engine}

/-- The data a run of the receive path shows: the data of each packet, and the error that ended
it. -/
def dataOf (items : List (Except Error Packet)) : List (Except Error Bytes) :=
  items.map (Except.map Packet.data)

/-- What a server sent, as data. -/
def sent (msgs : List (ServerMessage b64)) : List (Except Error Bytes) :=
  msgs.map fun m => .ok m.data

/-- The messages as websocket frames. -/
def websocketFrames (msgs : List (ServerMessage b64)) : List (Except Error Message) :=
  msgs.map fun m => .ok m.frame

/-- The messages in one polling body, joined by the separator. -/
def pollingBody (msgs : List (ServerMessage b64)) : Bytes :=
  [separator].intercalate (msgs.map ServerMessage.cell)

/-- **Transport transparency** of a message sequence: over a websocket the synchronous polls and the
asynchronous stream show one packet per message with the message's data, which is also what the
same messages show when they arrive in one polling body. -/
structure Transparent (b64 : Base64Engine) (msgs : List (ServerMessage b64)) : Prop where
  poll : ∀ n, dataOf (Socket.items b64 n
    (Socket.reading (Websocket.pollNext (websocketFrames msgs)))) = (sent msgs).take n
  stream : dataOf (Socket.stream b64 (Websocket.pollNext (websocketFrames msgs))) = sent msgs
  polling : ∀ n, dataOf (Socket.items b64 n (Socket.reading [.ok (pollingBody msgs)])) =
    (sent msgs).take n

theorem pollNext_websocketFrames (msgs : List (ServerMessage b64)) :
    Websocket.pollNext (websocketFrames msgs) = msgs.map fun m => .ok m.buffer := by
  induction msgs with
  | nil => rfl
  | cons m ms ih =>
      simp only [websocketFrames, Websocket.pollNext, List.map_cons] at ih ⊢
      rw [List.filterMap_cons_some (ServerMessage.received_frame m), ih]

/-- The meaning of the websocket buffers is what was sent, if and only if every message is one
frame. -/
theorem decodeBodies_buffers (msgs : List (ServerMessage b64)) :
    dataOf (decodeBodies b64 (msgs.map fun m => .ok m.buffer)) = sent msgs ↔
      ∀ m ∈ msgs, m.SingleFrame := by
  induction msgs with
  | nil => simp [decodeBodies, dataOf, sent]
  | cons m ms ih =>
      simp only [List.map_cons, List.forall_mem_cons]
      by_cases hm : m.SingleFrame
      · obtain ⟨p, hp, hdata⟩ := ServerMessage.tryFrom_buffer_of_singleFrame hm
        rw [decodeBodies_cons_ok m.buffer_ne_nil hp]
        simp only [hm, true_and, ← ih]
        simp [dataOf, sent, Except.map, hdata]
      · simp only [hm, false_and, iff_false]
        intro heq
        cases hp : Payload.tryFrom b64 m.buffer with
        | error e =>
            rw [decodeBodies_cons_error m.buffer_ne_nil hp] at heq
            simp [dataOf, sent, Except.map] at heq
        | ok ps =>
            obtain ⟨p, rest, rfl, hne⟩ := ServerMessage.tryFrom_buffer_of_not_singleFrame hm hp
            rw [decodeBodies_cons_ok m.buffer_ne_nil hp] at heq
            simp only [dataOf, sent, List.map_cons, List.cons_append, Except.map,
              List.cons.injEq, Except.ok.injEq] at heq
            exact hne heq.1

/-- A polling body shows its messages, whatever their data. -/
theorem tryFrom_pollingBody (m : ServerMessage b64) (ms : List (ServerMessage b64)) :
    ∃ ps, Payload.tryFrom b64 (pollingBody (m :: ms)) = .ok ps ∧
      ps.map Packet.data = (m :: ms).map ServerMessage.data := by
  induction ms generalizing m with
  | nil =>
      obtain ⟨p, hp, hdata⟩ := m.tryFrom_cell
      refine ⟨[p], ?_, by simp [hdata]⟩
      simpa [pollingBody, List.intercalate] using
        Payload.tryFrom_single m.separator_notMem_cell hp
  | cons m' ms ih =>
      obtain ⟨p, hp, hdata⟩ := m.tryFrom_cell
      obtain ⟨ps, hps, hdatas⟩ := ih m'
      have hjoin : pollingBody (m :: m' :: ms) = m.cell ++ separator :: pollingBody (m' :: ms) := by
        simp [pollingBody, List.intercalate]
      refine ⟨p :: ps, ?_, by simp only [List.map_cons, hdata, hdatas]⟩
      rw [hjoin]
      exact Payload.tryFrom_cons m.separator_notMem_cell hp hps

theorem decodeBodies_pollingBody (msgs : List (ServerMessage b64)) :
    dataOf (decodeBodies b64 [.ok (pollingBody msgs)]) = sent msgs := by
  cases msgs with
  | nil => rfl
  | cons m ms =>
      obtain ⟨ps, hps, hdata⟩ := tryFrom_pollingBody m ms
      have hne : pollingBody (m :: ms) ≠ [] := by
        intro e
        rw [e, Payload.tryFrom, List.splitOn_nil, mapM_cons_error (Packet.tryFrom_nil b64)] at hps
        simp at hps
      rw [decodeBodies_cons_ok hne hps]
      have hmap : ps.map (fun p => (Except.ok p.data : Except Error Bytes)) =
          (m :: ms).map fun m => Except.ok m.data := by
        have := congrArg (List.map (Except.ok : Bytes → Except Error Bytes)) hdata
        simpa [List.map_map, Function.comp_def] using this
      simpa [dataOf, decodeBodies, sent, Except.map, List.map_map, Function.comp_def] using hmap

/-- **A message sequence is transparent exactly when every binary message in it is nonempty and free
of the payload separator.** -/
theorem transparent_iff (b64 : Base64Engine) (msgs : List (ServerMessage b64)) :
    Transparent b64 msgs ↔ ∀ m ∈ msgs, m.SingleFrame := by
  have hnil : ∀ item ∈ msgs.map (fun m => (Except.ok m.buffer : Except Error Bytes)),
      item ≠ .ok [] := by
    intro item hitem
    obtain ⟨m, -, rfl⟩ := List.mem_map.mp hitem
    simpa using m.buffer_ne_nil
  have hstream : Socket.stream b64 _ = decodeBodies b64 _ := Socket.stream_eq hnil
  rw [← decodeBodies_buffers]
  constructor
  · intro h
    rw [← hstream, ← pollNext_websocketFrames]
    exact h.stream
  · intro h
    refine ⟨?_, ?_, ?_⟩
    · intro n
      rw [Socket.items_reading, pollNext_websocketFrames, dataOf, List.map_take]
      exact congrArg (List.take n) h
    · rw [pollNext_websocketFrames, hstream]
      exact h
    · intro n
      rw [Socket.items_reading, dataOf, List.map_take]
      exact congrArg (List.take n) (decodeBodies_pollingBody msgs)

/-- The binary message `[0x1e]` alone is not transparent: its buffer falls into the cells `[4]` and
`[]`, and the first of them is an incomplete packet. -/
theorem not_transparent_separator :
    ¬ Transparent Base64Engine.standard [.binary [separator]] := by
  intro h
  have hstream := h.stream
  revert hstream
  decide

end Websocket

section Polling

variable {b64 : Base64Engine}

/-- The bodies a client reads the same way whole and in chunks, up to the first rejected one: an
accepted body arrives in one chunk (an empty body in none), and the first chunk of a rejected body
is already rejected, with the error of the whole. -/
def ArrivesWhole (b64 : Base64Engine) : List Delivery → Prop
  | [] => True
  | response :: rest =>
      match response.chunks with
      | [] => ArrivesWhole b64 rest
      | [chunk] => (∃ packets, Payload.tryFrom b64 chunk = .ok packets) → ArrivesWhole b64 rest
      | chunk :: _ :: _ =>
          ∃ e, Payload.tryFrom b64 response.body = .error e ∧ Payload.tryFrom b64 chunk = .error e

/-- **A cut inside an accepted body shows.**  If the first chunk is accepted at all, its last packet
is a proper part of a packet of the body, or the next chunk opens with the separator and is
rejected where the body has one more packet. -/
theorem items_ne_of_cut {chunk next rest : Bytes} {ps qs : Payload}
    {later more : List (Except Error Packet)} {others : List (Except Error Bytes)}
    (hnext : next ≠ []) (hbody : Payload.tryFrom b64 (chunk ++ (next ++ rest)) = .ok ps)
    (hchunk : Payload.tryFrom b64 chunk = .ok qs)
    (hmore : more = decodeBodies b64 (.ok next :: others)) :
    ps.map .ok ++ later ≠ qs.map .ok ++ more := by
  obtain ⟨inits, last, hl⟩ := List.eq_nil_or_concat (chunk.splitOn separator) |>.resolve_left
    (List.splitOn_ne_nil separator chunk)
  obtain ⟨head, rests, hr⟩ :=
    List.exists_cons_of_ne_nil (List.splitOn_ne_nil separator (next ++ rest))
  rw [List.concat_eq_append] at hl
  -- the cells before the cut are the same in the chunk and in the body
  rw [Payload.tryFrom, hl] at hchunk
  rw [Payload.tryFrom, Split.splitOn_append hl hr] at hbody
  obtain ⟨qi, ql, rfl, hinit, hlast⟩ := mapM_append_eq_ok hchunk
  obtain ⟨pi, pr, rfl, hinit', hrest⟩ := mapM_append_eq_ok hbody
  obtain rfl : qi = pi := Except.ok.inj (hinit.symm.trans hinit')
  obtain ⟨q, qn, rfl, hq, hqn⟩ := mapM_cons_eq_ok hlast
  obtain rfl : qn = [] := (Except.ok.inj hqn).symm
  obtain ⟨p, pr, rfl, hp, hpr⟩ := mapM_cons_eq_ok hrest
  intro heq
  simp only [List.map_append, List.map_cons, List.map_nil, List.append_assoc, List.cons_append,
    List.nil_append, List.append_cancel_left_eq, List.cons.injEq, Except.ok.injEq] at heq
  obtain ⟨rfl, heq⟩ := heq
  cases last with
  | nil => simp at hq
  | cons first tail =>
      have hhead : head = [] := by
        have := Packet.tryFrom_inj hq hp
        simpa using this
      subst hhead
      rcases Split.head_cell_nil hr with hnil | ⟨after, hafter, hrests⟩
      · simp [hnext] at hnil
      · obtain ⟨x, xs, rfl⟩ := List.exists_cons_of_ne_nil hnext
        obtain rfl : x = separator := by simpa using congrArg List.head? hafter
        rw [decodeBodies_cons_error hnext (Payload.tryFrom_separator_cons b64 xs)] at hmore
        obtain ⟨cell, cells, hcells⟩ :=
          List.exists_cons_of_ne_nil (List.splitOn_ne_nil separator after)
        rw [hrests, hcells] at hpr
        obtain ⟨p', ps', rfl, -, -⟩ := mapM_cons_eq_ok hpr
        simp [hmore] at heq

/-- Whole bodies and chunks mean the same if and only if the bodies arrive whole. -/
theorem decodeBodies_chunks (responses : List Delivery) :
    decodeBodies b64 (Polling.poll responses) = decodeBodies b64 (Polling.stream responses) ↔
      ArrivesWhole b64 responses := by
  induction responses with
  | nil => simp [Polling.poll, Polling.stream, ArrivesWhole]
  | cons response rest ih =>
      obtain ⟨chunks, hne⟩ := response
      cases chunks with
      | nil =>
          simpa [Polling.poll, Polling.stream, Delivery.body, ArrivesWhole] using ih
      | cons chunk chunks =>
          have hchunk : chunk ≠ [] := hne chunk List.mem_cons_self
          cases chunks with
          | nil =>
              cases hp : Payload.tryFrom b64 chunk with
              | error e =>
                  simp [Polling.poll, Polling.stream, Delivery.body, ArrivesWhole,
                    decodeBodies_cons_error hchunk hp, hp]
              | ok ps =>
                  simpa [Polling.poll, Polling.stream, Delivery.body, ArrivesWhole,
                    decodeBodies_cons_ok hchunk hp, hp] using ih
          | cons next chunks =>
              have hnext : next ≠ [] := hne next (by simp)
              have hbody : chunk ++ (next ++ chunks.flatten) ≠ [] := by simp [hchunk]
              simp only [Polling.poll, Polling.stream, Delivery.body, ArrivesWhole, List.map_cons,
                List.flatMap_cons, List.flatten_cons, List.cons_append]
              cases hp : Payload.tryFrom b64 (chunk ++ (next ++ chunks.flatten)) with
              | error e =>
                  rw [decodeBodies_cons_error hbody hp]
                  cases hc : Payload.tryFrom b64 chunk with
                  | error e' => simp [decodeBodies_cons_error hchunk hc, eq_comm]
                  | ok qs =>
                      obtain ⟨q, qs', rfl⟩ :=
                        List.exists_cons_of_ne_nil (Payload.ne_nil_of_tryFrom hc)
                      simp [decodeBodies_cons_ok hchunk hc]
              | ok ps =>
                  rw [decodeBodies_cons_ok hbody hp]
                  simp only [reduceCtorEq, false_and, exists_false, iff_false]
                  cases hc : Payload.tryFrom b64 chunk with
                  | error e' =>
                      obtain ⟨p, ps', rfl⟩ :=
                        List.exists_cons_of_ne_nil (Payload.ne_nil_of_tryFrom hp)
                      simp [decodeBodies_cons_error hchunk hc]
                  | ok qs =>
                      rw [decodeBodies_cons_ok hchunk hc]
                      exact items_ne_of_cut hnext hp hc rfl

/-- **Asynchronous long polling reads what synchronous long polling reads exactly when the bodies
arrive whole.** -/
theorem chunked_iff_arrivesWhole (b64 : Base64Engine) (responses : List Delivery) :
    (∀ n, (Socket.stream b64 (Polling.stream responses)).take n =
      Socket.items b64 n (Socket.reading (Polling.poll responses))) ↔
      ArrivesWhole b64 responses := by
  have hnil : ∀ item ∈ Polling.stream responses, item ≠ .ok [] := by
    intro item hitem
    obtain ⟨response, -, hitem⟩ := List.mem_flatMap.mp hitem
    obtain ⟨chunk, hchunk, rfl⟩ := List.mem_map.mp hitem
    simpa using response.chunks_ne_nil chunk hchunk
  simp only [Socket.items_reading, Socket.stream_eq hnil]
  rw [← decodeBodies_chunks]
  constructor
  · intro h
    exact (eq_of_take_eq h).symm
  · intro h n
    rw [h]

/-- The body `4ab`, cut after its second byte. -/
def cutBody : Delivery where
  chunks := [[52, 97], [98]]
  chunks_ne_nil := by decide

/-- The body `4ab` is one packet in one piece.  In two it is a packet `a`, and a binary packet
without data: a `b` by itself is the prefix of an empty base64 text. -/
theorem chunked_ne_cutBody :
    ¬ ∀ n, (Socket.stream Base64Engine.standard (Polling.stream [cutBody])).take n =
      Socket.items Base64Engine.standard n (Socket.reading (Polling.poll [cutBody])) := by
  intro h
  have hone := h 1
  revert hone
  decide

end Polling

end TfSocketio.Engineio
