import WireguardNx.Lib.Layout
import WireguardNx.Wireguard.Messages

/-!
# The message codecs undo each other

Each message type has a layout: its fields in wire order, each of a fixed number of bytes.  The
parsers read by it and the serialisers write by it, so the general facts about layouts give the
round trips of all four types; what is left to each type is its type word and its size.  The type
words differ, so a packet is accepted by at most one parser, and the dispatcher calls its handler.

Nothing is assumed of the fields: any bytes of the right number are a message.
-/

namespace WireguardNx.Wireguard

variable {packet : List UInt8}

/-! ## Layouts of the fields -/

def bytesLayout (n : Nat) : Layout UInt8 (Bytes n) where
  width := n
  write bytes := bytes.toList
  read := readBytes n
  length_write bytes := bytes.toList_length
  read_write bytes rest := by
    have hle : n ≤ (bytes.toList ++ rest).length := by
      rw [List.length_append, bytes.toList_length]
      omega
    have htake : (bytes.toList ++ rest).take n = bytes.toList :=
      List.take_left' bytes.toList_length
    have hdrop : (bytes.toList ++ rest).drop n = rest := List.drop_left' bytes.toList_length
    rw [readBytes, dif_pos hle, hdrop]
    exact congrArg (fun v => some (v, rest)) (List.Vector.toList_injective htake)
  write_read {input rest bytes} h := by
    unfold readBytes at h
    split at h
    · cases h
      exact List.take_append_drop n input
    · cases h
  read_of_le {input} hle := ⟨_, _, dif_pos hle⟩

def le32Layout : Layout UInt8 UInt32 :=
  (bytesLayout 4).map ⟨loadLe32, storeLe32, storeLe32_loadLe32, loadLe32_storeLe32⟩

def le64Layout : Layout UInt8 UInt64 :=
  (bytesLayout 8).map ⟨loadLe64, storeLe64, storeLe64_loadLe64, loadLe64_storeLe64⟩

/-! ## Layouts of the messages -/

def initiationLayout : Layout UInt8 MessageHandshakeInitiation :=
  (le32Layout.pair (le32Layout.pair ((bytesLayout 32).pair ((bytesLayout (32 + 16)).pair
    ((bytesLayout (12 + 16)).pair ((bytesLayout 16).pair (bytesLayout 16))))))).map
  { toFun := fun (type, sender, ephemeral, static, timestamp, mac1, mac2) =>
      ⟨type, sender, ephemeral, static, timestamp, ⟨mac1, mac2⟩⟩
    invFun := fun m => (m.type, m.senderIndex, m.unencryptedEphemeral, m.encryptedStatic,
      m.encryptedTimestamp, m.macs.mac1, m.macs.mac2)
    left_inv := fun _ => rfl
    right_inv := fun _ => rfl }

def responseLayout : Layout UInt8 MessageHandshakeResponse :=
  (le32Layout.pair (le32Layout.pair (le32Layout.pair ((bytesLayout 32).pair
    ((bytesLayout (0 + 16)).pair ((bytesLayout 16).pair (bytesLayout 16))))))).map
  { toFun := fun (type, sender, receiver, ephemeral, nothing, mac1, mac2) =>
      ⟨type, sender, receiver, ephemeral, nothing, ⟨mac1, mac2⟩⟩
    invFun := fun m => (m.type, m.senderIndex, m.receiverIndex, m.unencryptedEphemeral,
      m.encryptedNothing, m.macs.mac1, m.macs.mac2)
    left_inv := fun _ => rfl
    right_inv := fun _ => rfl }

def cookieLayout : Layout UInt8 MessageHandshakeCookie :=
  (le32Layout.pair (le32Layout.pair ((bytesLayout 24).pair (bytesLayout (16 + 16))))).map
  { toFun := fun (type, receiver, nonce, cookie) => ⟨type, receiver, nonce, cookie⟩
    invFun := fun m => (m.type, m.receiverIndex, m.nonce, m.encryptedCookie)
    left_inv := fun _ => rfl
    right_inv := fun _ => rfl }

def transportLayout : Layout UInt8 MessageTransportData :=
  (le32Layout.pair (le32Layout.pair le64Layout)).map
  { toFun := fun (type, receiver, counter) => ⟨type, receiver, counter⟩
    invFun := fun m => (m.type, m.receiverIndex, m.counter)
    left_inv := fun _ => rfl
    right_inv := fun _ => rfl }

theorem readLe32_eq (packet : List UInt8) : readLe32 packet = le32Layout.read packet := rfl

private theorem readLe64_eq (packet : List UInt8) : readLe64 packet = le64Layout.read packet := rfl

theorem readBytes_eq (n : Nat) (packet : List UInt8) :
    readBytes n packet = (bytesLayout n).read packet := rfl

private theorem readHandshakeInitiation_eq (packet : List UInt8) :
    readHandshakeInitiation packet = initiationLayout.value packet := by
  simp only [readHandshakeInitiation, readLe32_eq, readBytes_eq, initiationLayout,
    Layout.value_eq_bind, Layout.map_read_bind, Layout.pair_read_bind, Option.bind_eq_bind]
  rfl

private theorem readHandshakeResponse_eq (packet : List UInt8) :
    readHandshakeResponse packet = responseLayout.value packet := by
  simp only [readHandshakeResponse, readLe32_eq, readBytes_eq, responseLayout,
    Layout.value_eq_bind, Layout.map_read_bind, Layout.pair_read_bind, Option.bind_eq_bind]
  rfl

private theorem readHandshakeCookie_eq (packet : List UInt8) :
    readHandshakeCookie packet = cookieLayout.value packet := by
  simp only [readHandshakeCookie, readLe32_eq, readBytes_eq, cookieLayout,
    Layout.value_eq_bind, Layout.map_read_bind, Layout.pair_read_bind, Option.bind_eq_bind]
  rfl

private theorem readTransportDataHeader_eq (packet : List UInt8) :
    readTransportDataHeader packet = transportLayout.value packet := by
  simp only [readTransportDataHeader, readLe32_eq, readLe64_eq, transportLayout,
    Layout.value_eq_bind, Layout.map_read_bind, Layout.pair_read_bind, Option.bind_eq_bind]
  rfl

/-! ## The type word and the size of a packet -/

/-- The little-endian word a packet starts with. -/
def typeWord (packet : List UInt8) : Option UInt32 := le32Layout.value packet

/-- The size a parser asks for: exactly `size`, or at least that. -/
def HasSize (size : Nat) (exactSize : Bool) (packet : List UInt8) : Prop :=
  if exactSize then packet.length = size else size ≤ packet.length

theorem HasSize.le {size : Nat} {exactSize : Bool} (h : HasSize size exactSize packet) :
    size ≤ packet.length := by
  unfold HasSize at h
  split at h
  · exact h.ge
  · exact h

theorem getMessageType_eq_some_iff (word : UInt32) (type : MessageType) :
    getMessageType word = some type ↔ word = type.word := by
  constructor
  · intro h
    unfold getMessageType at h
    split_ifs at h with h₀ h₁ h₂ h₃ h₄ <;> cases h <;> assumption
  · rintro rfl
    cases type <;> rfl

/-- What `InspectMessageType` answers is the packet's type word. -/
theorem inspectMessageType_ok_iff (packet : List UInt8) (type : MessageType) :
    inspectMessageType packet = .ok type ↔ typeWord packet = some type.word ∧ type ≠ .invalid := by
  have hword : typeWord packet = (readLe32 packet).map Prod.fst := rfl
  rw [hword]
  unfold inspectMessageType
  cases hread : readLe32 packet with
  | none => exact ⟨nofun, fun h => nomatch h.1⟩
  | some front =>
    obtain ⟨word, rest⟩ := front
    simp only [Option.map_some, Option.some.injEq, ← getMessageType_eq_some_iff]
    cases getMessageType word with
    | none => exact ⟨nofun, fun h => nomatch h.1⟩
    | some found => cases found <;> cases type <;> simp

private theorem validatePacket_ok_iff (packet : List UInt8) {type : MessageType} (size : Nat)
    (exactSize : Bool) (htype : type ≠ .invalid) :
    validatePacket packet type size exactSize = .ok () ↔
      typeWord packet = some type.word ∧ HasSize size exactSize packet := by
  have hinspect := inspectMessageType_ok_iff packet type
  unfold validatePacket HasSize
  cases hfound : inspectMessageType packet with
  | error e =>
    rw [hfound] at hinspect
    exact ⟨nofun, fun h => nomatch hinspect.mpr ⟨h.1, htype⟩⟩
  | ok found =>
    rw [hfound] at hinspect
    by_cases hsame : found = type
    · subst hsame
      have hword := (hinspect.mp rfl).1
      cases exactSize <;> simp [hword]
    · have hne : ¬ typeWord packet = some type.word := fun h =>
        hsame (Except.ok.inj (hinspect.mpr ⟨h, htype⟩))
      simp [hsame, hne]

/-! ## One parser and one serialiser for all types -/

def parseAs {α : Type} (layout : Layout UInt8 α) (type : MessageType) (size : Nat)
    (exactSize : Bool) (packet : List UInt8) : Except ParseError α :=
  match validatePacket packet type size exactSize with
  | .error e => .error e
  | .ok () =>
    match layout.value packet with
    | some message => .ok message
    | none => .error .invalidLength

def serializeAs {α : Type} (layout : Layout UInt8 α) (type : MessageType) (typeField : α → UInt32)
    (message : α) : Except ParseError (List UInt8) :=
  if getMessageType (typeField message) ≠ some type then .error .invalidArgument
  else .ok (layout.write message)

/-- A parser and a serialiser of one message type that undo each other: a message of the type is
read back from the bytes it was written to, exactly the packets with the type word and the size are
read, and what was read is written back as the bytes it stood in. -/
structure UndoEachOther {α : Type} (type : MessageType) (size : Nat) (exactSize : Bool)
    (typeField : α → UInt32) (parse : List UInt8 → Except ParseError α)
    (serialize : α → Except ParseError (List UInt8)) : Prop where
  parse_serialize : ∀ message output, typeField message = type.word → size ≤ output.length →
    ∃ bytes, bytes.length = size ∧ parse bytes = .ok message ∧
      serializeTo output size (serialize message) = .ok (bytes ++ output.drop size)
  parse_ok_iff : ∀ packet, (∃ message, parse packet = .ok message) ↔
    typeWord packet = some type.word ∧ HasSize size exactSize packet
  serialize_parse : ∀ packet message, parse packet = .ok message →
    serialize message = .ok (packet.take size)

section Layouts

variable {α : Type} {layout : Layout UInt8 α} {type : MessageType} {size : Nat} {exactSize : Bool}
  {typeField : α → UInt32}

theorem parseAs_ok_iff (htype : type ≠ .invalid) {packet : List UInt8} {message : α} :
    parseAs layout type size exactSize packet = .ok message ↔
      (typeWord packet = some type.word ∧ HasSize size exactSize packet) ∧
        layout.value packet = some message := by
  rw [← validatePacket_ok_iff packet size exactSize htype]
  unfold parseAs
  cases validatePacket packet type size exactSize with
  | error e => exact ⟨nofun, fun h => nomatch h.1⟩
  | ok _ =>
    cases layout.value packet with
    | none => exact ⟨nofun, fun h => nomatch h.2⟩
    | some found => simp

/-- A layout that starts with the type word and has the type's size makes the two bodies undo each
other. -/
theorem undoEachOther (htype : type ≠ .invalid) (hwidth : layout.width = size)
    (hfront : ∀ packet message, layout.value packet = some message →
      typeWord packet = some (typeField message)) :
    UndoEachOther type size exactSize typeField (parseAs layout type size exactSize)
      (serializeAs layout type typeField) where
  parse_serialize message output hword hroom := by
    have hvalue : layout.value (layout.write message) = some message := by
      simpa only [List.append_nil] using layout.value_write message []
    have hlen : (layout.write message).length = size :=
      (layout.length_write message).trans hwidth
    have hsize : HasSize size exactSize (layout.write message) := by
      unfold HasSize
      split
      · exact hlen
      · exact hlen.ge
    have hserialized : serializeAs layout type typeField message = .ok (layout.write message) :=
      if_neg (not_not.mpr ((getMessageType_eq_some_iff _ _).mpr hword))
    refine ⟨layout.write message, hlen, ?_, ?_⟩
    · have htype' := (hfront _ _ hvalue).trans (congrArg some hword)
      exact (parseAs_ok_iff htype).mpr ⟨⟨htype', hsize⟩, hvalue⟩
    · rw [hserialized, serializeTo, if_neg (not_lt.mpr hroom)]
      rfl
  parse_ok_iff packet := by
    constructor
    · rintro ⟨message, hparse⟩
      exact ((parseAs_ok_iff htype).mp hparse).1
    · intro hpacket
      obtain ⟨message, hvalue⟩ := layout.value_eq_some_of_le (hwidth.le.trans hpacket.2.le)
      exact ⟨message, (parseAs_ok_iff htype).mpr ⟨hpacket, hvalue⟩⟩
  serialize_parse packet message hparse := by
    obtain ⟨⟨hword, -⟩, hvalue⟩ := (parseAs_ok_iff htype).mp hparse
    have hfield : typeField message = type.word :=
      Option.some.inj ((hfront _ _ hvalue).symm.trans hword)
    rw [← hwidth, ← layout.write_of_value hvalue]
    exact if_neg (not_not.mpr ((getMessageType_eq_some_iff _ _).mpr hfield))

/-- A layout whose first field is a word has that word at the front. -/
theorem typeWord_of_value {γ δ : Type} {rest : Layout UInt8 γ} {e : UInt32 × γ ≃ δ}
    {packet : List UInt8} {message : δ}
    (h : ((le32Layout.pair rest).map e).value packet = some message) :
    typeWord packet = some (e.symm message).1 := by
  rw [Layout.value_map] at h
  obtain ⟨v, hvalue, rfl⟩ := Option.map_eq_some_iff.mp h
  rw [e.symm_apply_apply]
  exact Layout.value_pair_fst hvalue

end Layouts

/-! ## The four types -/

theorem initiation_undoEachOther :
    UndoEachOther .handshakeInitiation handshakeInitiationSize true MessageHandshakeInitiation.type
      parseHandshakeInitiation serializeHandshakeInitiation := by
  have hparse : parseHandshakeInitiation =
      parseAs initiationLayout .handshakeInitiation handshakeInitiationSize true := by
    funext packet
    unfold parseHandshakeInitiation parseAs
    rw [readHandshakeInitiation_eq]
    cases validatePacket packet .handshakeInitiation handshakeInitiationSize true with
    | error e => rfl
    | ok _ => cases initiationLayout.value packet <;> rfl
  have hserialize : serializeHandshakeInitiation =
      serializeAs initiationLayout .handshakeInitiation MessageHandshakeInitiation.type := by
    funext message
    unfold serializeHandshakeInitiation serializeAs MessageHandshakeInitiation.body
    simp only [List.append_assoc]
    rfl
  rw [hparse, hserialize]
  exact undoEachOther (by decide) rfl fun packet message h => typeWord_of_value h

theorem response_undoEachOther :
    UndoEachOther .handshakeResponse handshakeResponseSize true MessageHandshakeResponse.type
      parseHandshakeResponse serializeHandshakeResponse := by
  have hparse : parseHandshakeResponse =
      parseAs responseLayout .handshakeResponse handshakeResponseSize true := by
    funext packet
    unfold parseHandshakeResponse parseAs
    rw [readHandshakeResponse_eq]
    cases validatePacket packet .handshakeResponse handshakeResponseSize true with
    | error e => rfl
    | ok _ => cases responseLayout.value packet <;> rfl
  have hserialize : serializeHandshakeResponse =
      serializeAs responseLayout .handshakeResponse MessageHandshakeResponse.type := by
    funext message
    unfold serializeHandshakeResponse serializeAs MessageHandshakeResponse.body
    simp only [List.append_assoc]
    rfl
  rw [hparse, hserialize]
  exact undoEachOther (by decide) rfl fun packet message h => typeWord_of_value h

theorem cookie_undoEachOther :
    UndoEachOther .cookieReply handshakeCookieSize true MessageHandshakeCookie.type
      parseHandshakeCookie serializeHandshakeCookie := by
  have hparse : parseHandshakeCookie =
      parseAs cookieLayout .cookieReply handshakeCookieSize true := by
    funext packet
    unfold parseHandshakeCookie parseAs
    rw [readHandshakeCookie_eq]
    cases validatePacket packet .cookieReply handshakeCookieSize true with
    | error e => rfl
    | ok _ => cases cookieLayout.value packet <;> rfl
  have hserialize : serializeHandshakeCookie =
      serializeAs cookieLayout .cookieReply MessageHandshakeCookie.type := by
    funext message
    unfold serializeHandshakeCookie serializeAs
    simp only [List.append_assoc]
    rfl
  rw [hparse, hserialize]
  exact undoEachOther (by decide) rfl fun packet message h => typeWord_of_value h

theorem transport_undoEachOther :
    UndoEachOther .transportData transportDataHeaderSize false MessageTransportData.type
      parseTransportDataHeader serializeTransportDataHeader := by
  have hparse : parseTransportDataHeader =
      parseAs transportLayout .transportData transportDataHeaderSize false := by
    funext packet
    unfold parseTransportDataHeader parseAs
    rw [readTransportDataHeader_eq]
    cases validatePacket packet .transportData transportDataHeaderSize false with
    | error e => rfl
    | ok _ => cases transportLayout.value packet <;> rfl
  have hserialize : serializeTransportDataHeader =
      serializeAs transportLayout .transportData MessageTransportData.type := by
    funext message
    unfold serializeTransportDataHeader serializeAs
    simp only [List.append_assoc]
    rfl
  rw [hparse, hserialize]
  exact undoEachOther (by decide) rfl fun packet message h => typeWord_of_value h

/-! ## Dispatch -/

/-- A dispatcher's result for a packet: the handler whose parser accepts the packet was called with
the message, and nothing else happened to the context; a packet that no parser accepts is refused
and no handler is called. -/
structure Dispatched {κ : Type} (packet : List UInt8) (handlers : PacketDispatchHandlers κ)
    (context : κ) (result : Except ParseError MessageType × κ) : Prop where
  initiation : ∀ message, parseHandshakeInitiation packet = .ok message → result =
    (.ok .handshakeInitiation, callHandler handlers.handshakeInitiation context message)
  response : ∀ message, parseHandshakeResponse packet = .ok message → result =
    (.ok .handshakeResponse, callHandler handlers.handshakeResponse context message)
  cookie : ∀ message, parseHandshakeCookie packet = .ok message → result =
    (.ok .cookieReply, callHandler handlers.cookieReply context message)
  transport : ∀ header, parseTransportDataHeader packet = .ok header → result =
    (.ok .transportData, callHandler handlers.transportData context
      (header, packet.drop transportDataHeaderSize))
  refused : (∀ message, parseHandshakeInitiation packet ≠ .ok message) →
    (∀ message, parseHandshakeResponse packet ≠ .ok message) →
    (∀ message, parseHandshakeCookie packet ≠ .ok message) →
    (∀ header, parseTransportDataHeader packet ≠ .ok header) →
    ∃ e, result = (.error e, context)

/-- A packet that the parser of a type accepts is inspected as that type. -/
theorem UndoEachOther.inspect {α : Type} {type : MessageType} {size : Nat} {exactSize : Bool}
    {typeField : α → UInt32} {parse : List UInt8 → Except ParseError α}
    {serialize : α → Except ParseError (List UInt8)}
    (h : UndoEachOther type size exactSize typeField parse serialize) (htype : type ≠ .invalid)
    {message : α} (hparse : parse packet = .ok message) : inspectMessageType packet = .ok type := by
  have hword := ((h.parse_ok_iff packet).mp ⟨message, hparse⟩).1
  exact (inspectMessageType_ok_iff packet type).mpr ⟨hword, htype⟩

private theorem dispatchPacket_dispatched {κ : Type} (handlers : PacketDispatchHandlers κ)
    {context : κ} :
    Dispatched packet handlers context (dispatchPacket packet handlers context) where
  initiation message hparse := by
    rw [dispatchPacket, initiation_undoEachOther.inspect (by decide) hparse]
    simp only [hparse]
  response message hparse := by
    rw [dispatchPacket, response_undoEachOther.inspect (by decide) hparse]
    simp only [hparse]
  cookie message hparse := by
    rw [dispatchPacket, cookie_undoEachOther.inspect (by decide) hparse]
    simp only [hparse]
  transport header hparse := by
    rw [dispatchPacket, transport_undoEachOther.inspect (by decide) hparse]
    simp only [hparse]
  refused hinitiation hresponse hcookie htrans := by
    unfold dispatchPacket
    cases inspectMessageType packet with
    | error e => exact ⟨e, rfl⟩
    | ok type =>
      cases type with
      | invalid => exact ⟨_, rfl⟩
      | handshakeInitiation =>
        cases hparse : parseHandshakeInitiation packet with
        | error e => exact ⟨e, rfl⟩
        | ok message => exact absurd hparse (hinitiation message)
      | handshakeResponse =>
        cases hparse : parseHandshakeResponse packet with
        | error e => exact ⟨e, rfl⟩
        | ok message => exact absurd hparse (hresponse message)
      | cookieReply =>
        cases hparse : parseHandshakeCookie packet with
        | error e => exact ⟨e, rfl⟩
        | ok message => exact absurd hparse (hcookie message)
      | transportData =>
        cases hparse : parseTransportDataHeader packet with
        | error e => exact ⟨e, rfl⟩
        | ok header => exact absurd hparse (htrans header)

/-- The parser and the serialiser of each of the four message types undo each other, and
`DispatchPacket` calls the handler of the one parser that accepts a packet. -/
theorem message_codecs_exact : UndoEachOther .handshakeInitiation handshakeInitiationSize true
        MessageHandshakeInitiation.type parseHandshakeInitiation serializeHandshakeInitiation ∧
      UndoEachOther .handshakeResponse handshakeResponseSize true
        MessageHandshakeResponse.type parseHandshakeResponse serializeHandshakeResponse ∧
      UndoEachOther .cookieReply handshakeCookieSize true
        MessageHandshakeCookie.type parseHandshakeCookie serializeHandshakeCookie ∧
      UndoEachOther .transportData transportDataHeaderSize false
        MessageTransportData.type parseTransportDataHeader serializeTransportDataHeader ∧
      ∀ (κ : Type) (packet : List UInt8) (handlers : PacketDispatchHandlers κ) (context : κ),
        Dispatched packet handlers context (dispatchPacket packet handlers context) :=
  ⟨initiation_undoEachOther, response_undoEachOther, cookie_undoEachOther,
    transport_undoEachOther, fun _ _ handlers _ =>
      dispatchPacket_dispatched handlers⟩

end WireguardNx.Wireguard
