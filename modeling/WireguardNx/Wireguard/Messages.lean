import WireguardNx.Wireguard.Primitives

/-!
# The four message types on the wire

`message_handshake_initiation`, `message_handshake_response`, `message_handshake_cookie` and the
transport-data header, with the parser and the serialiser of `messages.cpp`.  A message keeps the
type word it was read with, as in the source: whether it is the right one is checked separately.
-/

namespace WireguardNx.Wireguard

/-- `MessageType`, for the type words the protocol knows. -/
inductive MessageType where
  | invalid
  | handshakeInitiation
  | handshakeResponse
  | cookieReply
  | transportData
  deriving DecidableEq, Repr

/-- `SetMessageType`: the type word of a message type. -/
def MessageType.word : MessageType → UInt32
  | .invalid => 0
  | .handshakeInitiation => 1
  | .handshakeResponse => 2
  | .cookieReply => 3
  | .transportData => 4

/-- `GetMessageType`; a word outside the enumeration has no name of its own. -/
def getMessageType (field : UInt32) : Option MessageType :=
  if field = 0 then some .invalid
  else if field = 1 then some .handshakeInitiation
  else if field = 2 then some .handshakeResponse
  else if field = 3 then some .cookieReply
  else if field = 4 then some .transportData
  else none

/-- `message_macs`. -/
structure MessageMacs where
  mac1 : Bytes 16
  mac2 : Bytes 16
  deriving DecidableEq

/-- `message_handshake_initiation`; the encrypted fields are ciphertext followed by tag. -/
structure MessageHandshakeInitiation where
  type : UInt32
  senderIndex : UInt32
  unencryptedEphemeral : Bytes 32
  encryptedStatic : Bytes (32 + 16)
  encryptedTimestamp : Bytes (12 + 16)
  macs : MessageMacs
  deriving DecidableEq

/-- `message_handshake_response`. -/
structure MessageHandshakeResponse where
  type : UInt32
  senderIndex : UInt32
  receiverIndex : UInt32
  unencryptedEphemeral : Bytes 32
  encryptedNothing : Bytes (0 + 16)
  macs : MessageMacs
  deriving DecidableEq

/-- `message_handshake_cookie`. -/
structure MessageHandshakeCookie where
  type : UInt32
  receiverIndex : UInt32
  nonce : Bytes 24
  encryptedCookie : Bytes (16 + 16)
  deriving DecidableEq

/-- `message_transport_data`: the header of a transport packet. -/
structure MessageTransportData where
  type : UInt32
  receiverIndex : UInt32
  counter : UInt64
  deriving DecidableEq

/-- `ParseError`, without the success value. -/
inductive ParseError where
  | missingType
  | unknownType
  | invalidLength
  | invalidArgument
  | insufficientCapacity
  deriving DecidableEq, Repr

/-- A value-initialised MAC pair. -/
def MessageMacs.empty : MessageMacs := ⟨Bytes.zero 16, Bytes.zero 16⟩

/-- A value-initialised initiation. -/
def MessageHandshakeInitiation.empty : MessageHandshakeInitiation :=
  ⟨0, 0, Bytes.zero 32, Bytes.zero (32 + 16), Bytes.zero (12 + 16), .empty⟩

/-- A value-initialised response. -/
def MessageHandshakeResponse.empty : MessageHandshakeResponse :=
  ⟨0, 0, 0, Bytes.zero 32, Bytes.zero (0 + 16), .empty⟩

/-! ## Sizes -/

def handshakeInitiationSize : Nat := 148
def handshakeResponseSize : Nat := 92
def handshakeCookieSize : Nat := 64

/-! ## Reading -/

/-- `PacketReader::Read`: the next `n` bytes and the rest of the packet. -/
def readBytes (n : Nat) (input : List UInt8) : Option (Bytes n × List UInt8) :=
  if h : n ≤ input.length then some (Bytes.ofPrefix n input h, input.drop n) else none

def readLe32 (input : List UInt8) : Option (UInt32 × List UInt8) :=
  (readBytes 4 input).map fun (bytes, rest) => (loadLe32 bytes, rest)

def readLe64 (input : List UInt8) : Option (UInt64 × List UInt8) :=
  (readBytes 8 input).map fun (bytes, rest) => (loadLe64 bytes, rest)

variable (packet : List UInt8)

/-- `InspectMessageType`.  The failure's message type is only logged and is left out. -/
def inspectMessageType : Except ParseError MessageType :=
  match readLe32 packet with
  | none => .error .missingType
  | some (word, _) =>
    match getMessageType word with
    | some .invalid | none => .error .unknownType
    | some type => .ok type

def validatePacket (expectedType : MessageType) (requiredSize : Nat) (exactSize : Bool) :
    Except ParseError Unit :=
  match inspectMessageType packet with
  | .error e => .error e
  | .ok type =>
    if type ≠ expectedType then .error .unknownType
    else if (exactSize ∧ packet.length ≠ requiredSize) ∨
    (¬ exactSize ∧ packet.length < requiredSize)
    then .error .invalidLength
    else .ok ()

/-- The fields of an initiation, in wire order. -/
def readHandshakeInitiation : Option MessageHandshakeInitiation := do
  let (type, packet) ← readLe32 packet
  let (senderIndex, packet) ← readLe32 packet
  let (unencryptedEphemeral, packet) ← readBytes 32 packet
  let (encryptedStatic, packet) ← readBytes (32 + 16) packet
  let (encryptedTimestamp, packet) ← readBytes (12 + 16) packet
  let (mac1, packet) ← readBytes 16 packet
  let (mac2, _) ← readBytes 16 packet
  some ⟨type, senderIndex, unencryptedEphemeral, encryptedStatic, encryptedTimestamp, ⟨mac1, mac2⟩⟩

def parseHandshakeInitiation : Except ParseError MessageHandshakeInitiation :=
  match validatePacket packet .handshakeInitiation handshakeInitiationSize true with
  | .error e => .error e
  | .ok () =>
    match readHandshakeInitiation packet with
    | some message => .ok message
    | none => .error .invalidLength

/-- The fields of a response, in wire order. -/
def readHandshakeResponse : Option MessageHandshakeResponse := do
  let (type, packet) ← readLe32 packet
  let (senderIndex, packet) ← readLe32 packet
  let (receiverIndex, packet) ← readLe32 packet
  let (unencryptedEphemeral, packet) ← readBytes 32 packet
  let (encryptedNothing, packet) ← readBytes (0 + 16) packet
  let (mac1, packet) ← readBytes 16 packet
  let (mac2, _) ← readBytes 16 packet
  some ⟨type, senderIndex, receiverIndex, unencryptedEphemeral, encryptedNothing, ⟨mac1, mac2⟩⟩

def parseHandshakeResponse : Except ParseError MessageHandshakeResponse :=
  match validatePacket packet .handshakeResponse handshakeResponseSize true with
  | .error e => .error e
  | .ok () =>
    match readHandshakeResponse packet with
    | some message => .ok message
    | none => .error .invalidLength

/-- The fields of a cookie reply, in wire order. -/
def readHandshakeCookie : Option MessageHandshakeCookie := do
  let (type, packet) ← readLe32 packet
  let (receiverIndex, packet) ← readLe32 packet
  let (nonce, packet) ← readBytes 24 packet
  let (encryptedCookie, _) ← readBytes (16 + 16) packet
  some ⟨type, receiverIndex, nonce, encryptedCookie⟩

def parseHandshakeCookie : Except ParseError MessageHandshakeCookie :=
  match validatePacket packet .cookieReply handshakeCookieSize true with
  | .error e => .error e
  | .ok () =>
    match readHandshakeCookie packet with
    | some message => .ok message
    | none => .error .invalidLength

/-- The fields of a transport header, in wire order. -/
def readTransportDataHeader : Option MessageTransportData := do
  let (type, packet) ← readLe32 packet
  let (receiverIndex, packet) ← readLe32 packet
  let (counter, _) ← readLe64 packet
  some ⟨type, receiverIndex, counter⟩

def parseTransportDataHeader : Except ParseError MessageTransportData :=
  match validatePacket packet .transportData transportDataHeaderSize false with
  | .error e => .error e
  | .ok () =>
    match readTransportDataHeader packet with
    | some message => .ok message
    | none => .error .invalidLength

/-! ## Writing

The targets the source serialises into always have the message's size, so the serialisers here give
the bytes they write and check only the type word; `serializeTo` is the call on a span of any
size. -/

/-- The bytes of an initiation up to its MACs. -/
def MessageHandshakeInitiation.body (message : MessageHandshakeInitiation) : List UInt8 :=
  (storeLe32 message.type).toList ++ (storeLe32 message.senderIndex).toList ++
    message.unencryptedEphemeral.toList ++ message.encryptedStatic.toList ++
    message.encryptedTimestamp.toList

/-- The bytes of a response up to its MACs. -/
def MessageHandshakeResponse.body (message : MessageHandshakeResponse) : List UInt8 :=
  (storeLe32 message.type).toList ++ (storeLe32 message.senderIndex).toList ++
    (storeLe32 message.receiverIndex).toList ++ message.unencryptedEphemeral.toList ++
    message.encryptedNothing.toList

def serializeHandshakeInitiation (message : MessageHandshakeInitiation) :
    Except ParseError (List UInt8) :=
  if getMessageType message.type ≠ some .handshakeInitiation then .error .invalidArgument
  else .ok (message.body ++ message.macs.mac1.toList ++ message.macs.mac2.toList)

def serializeHandshakeResponse (message : MessageHandshakeResponse) :
    Except ParseError (List UInt8) :=
  if getMessageType message.type ≠ some .handshakeResponse then .error .invalidArgument
  else .ok (message.body ++ message.macs.mac1.toList ++ message.macs.mac2.toList)

def serializeHandshakeCookie (message : MessageHandshakeCookie) : Except ParseError (List UInt8) :=
  if getMessageType message.type ≠ some .cookieReply then .error .invalidArgument
  else .ok ((storeLe32 message.type).toList ++ (storeLe32 message.receiverIndex).toList ++
    message.nonce.toList ++ message.encryptedCookie.toList)

def serializeTransportDataHeader (message : MessageTransportData) :
    Except ParseError (List UInt8) :=
  if getMessageType message.type ≠ some .transportData then .error .invalidArgument
  else .ok ((storeLe32 message.type).toList ++ (storeLe32 message.receiverIndex).toList ++
    (storeLe64 message.counter).toList)

/-- A `Serialize*` call on a span: the bytes in the span after it.  `ValidateSerializeTarget` looks
at the span's size before the type word. -/
def serializeTo (output : List UInt8) (requiredSize : Nat)
    (serialized : Except ParseError (List UInt8)) : Except ParseError (List UInt8) :=
  if output.length < requiredSize then .error .insufficientCapacity
  else serialized.map (· ++ output.drop requiredSize)

/-! ## Dispatch

`dispatch.cpp`: a packet goes to the handler of its message type.  A handler changes the caller's
context; a null one is `none`. -/

/-- `PacketDispatchHandlers`, over the context `κ` its handlers work on. -/
structure PacketDispatchHandlers (κ : Type) where
  handshakeInitiation : Option (κ → MessageHandshakeInitiation → κ)
  handshakeResponse : Option (κ → MessageHandshakeResponse → κ)
  cookieReply : Option (κ → MessageHandshakeCookie → κ)
  transportData : Option (κ → MessageTransportData × List UInt8 → κ)

/-- The call of a handler, where there is one. -/
def callHandler {κ α : Type} (handler : Option (κ → α → κ)) (context : κ) (message : α) : κ :=
  match handler with
  | some call => call context message
  | none => context

/-- `DispatchPacket`: its result, and the context after it. -/
def dispatchPacket {κ : Type} (packet : List UInt8) (handlers : PacketDispatchHandlers κ)
    (context : κ) : Except ParseError MessageType × κ :=
  match inspectMessageType packet with
  | .error e => (.error e, context)
  | .ok .handshakeInitiation =>
    match parseHandshakeInitiation packet with
    | .error e => (.error e, context)
    | .ok message =>
      (.ok .handshakeInitiation, callHandler handlers.handshakeInitiation context message)
  | .ok .handshakeResponse =>
    match parseHandshakeResponse packet with
    | .error e => (.error e, context)
    | .ok message =>
      (.ok .handshakeResponse, callHandler handlers.handshakeResponse context message)
  | .ok .cookieReply =>
    match parseHandshakeCookie packet with
    | .error e => (.error e, context)
    | .ok message => (.ok .cookieReply, callHandler handlers.cookieReply context message)
  | .ok .transportData =>
    match parseTransportDataHeader packet with
    | .error e => (.error e, context)
    | .ok message =>
      (.ok .transportData, callHandler handlers.transportData context
        (message, packet.drop transportDataHeaderSize))
  | .ok .invalid => (.error .unknownType, context)

end WireguardNx.Wireguard
