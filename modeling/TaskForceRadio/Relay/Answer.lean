import TaskForceRadio.Relay.Announcement

/-!
# The answer to a connection attempt

`HandleConnectRequest` turns an `InvalidDataException` of the reader into a reject. A datagram
that ends where the length byte of a string is due makes the indexer of the span throw instead,
and that exception leaves the handler without an answer. Every other attempt is answered once.
-/

set_option autoImplicit false

namespace TaskForceRadio.VoiceServer

/-- The type byte of the packet. -/
def Datagram.kind (d : Datagram) : Option UInt8 := d.payload.head?

/-- The datagram tells `remote` how its connection attempt ended. -/
def Datagram.isAnswer (remote : IPEndPoint) (d : Datagram) : Bool :=
  d.target = remote ∧ (d.kind = some PacketType.connectAccept.code ∨
    d.kind = some PacketType.connectReject.code)

/-- The number of answers to `remote`. -/
def answers (remote : IPEndPoint) (sent : List Datagram) : Nat := sent.countP (·.isAnswer remote)

/-- The fields behind the password hash end where the length byte of one of them is due. -/
def EndsBeforeLength (identity : Bytes) : Prop :=
  identity = [] ∨ ∃ uid : Bytes, uid.length ≤ maxUidLength ∧ identity = string8 uid

/-- A request of this version with a whole password hash, cut before a length byte. -/
def CutBeforeLength (reader : Bytes) : Prop :=
  ∃ hash identity : Bytes, hash.length = 32 ∧ EndsBeforeLength identity ∧
    reader = versionMajor :: (hash ++ identity)

namespace PacketReader

private theorem readString8_cases (maxLength : Nat) (bytes : Bytes) :
    bytes = [] ∧ readString8 maxLength bytes = .error .indexOutOfRange ∨
    bytes ≠ [] ∧ readString8 maxLength bytes = .error .invalidData ∨
    ∃ value rest, value.length ≤ maxLength ∧ bytes = string8 value ++ rest ∧
      readString8 maxLength bytes = .ok (decodeUtf8 value, rest) := by
  cases bytes with
  | nil => exact Or.inl ⟨rfl, rfl⟩
  | cons byteCount rest =>
    apply Or.inr
    simp only [readString8, readByte_cons]
    by_cases hbad : maxLength < byteCount.toNat ∨ rest.length < byteCount.toNat
    · rw [if_pos hbad]
      exact Or.inl ⟨List.cons_ne_nil _ _, rfl⟩
    · rw [if_neg hbad]
      have hlength : (rest.take byteCount.toNat).length = byteCount.toNat := by
        rw [List.length_take]
        omega
      refine Or.inr ⟨rest.take byteCount.toNat, rest.drop byteCount.toNat, ?_, ?_, rfl⟩
      · omega
      · rw [string8, hlength, UInt8.ofNat_toNat, List.cons_append, List.take_append_drop]

end PacketReader

namespace RelayServer

private theorem readIdentity_throws_iff (identity : Bytes) :
    (∃ e, readIdentity identity = .error e ∧ e ≠ .invalidData) ↔ EndsBeforeLength identity := by
  rcases PacketReader.readString8_cases maxUidLength identity with
    ⟨hend, huid⟩ | ⟨hmore, huid⟩ | ⟨uid, rest, hlength, hidentity, huid⟩
  · refine iff_of_true ⟨.indexOutOfRange, ?_, by decide⟩ (Or.inl hend)
    simp only [readIdentity, huid, bind, Except.bind]
  · simp only [readIdentity, huid, bind, Except.bind]
    constructor
    · rintro ⟨e, he, hne⟩
      exact absurd (Except.error.inj he).symm hne
    · rintro (hend | ⟨value, hvalue, hidentity⟩)
      · exact absurd hend hmore
      · have hread := PacketReader.readString8_string8 [] hvalue
          (hvalue.trans (by decide))
        rw [List.append_nil, ← hidentity, huid] at hread
        cases hread
  · have hbyte : uid.length ≤ 255 := hlength.trans (by decide)
    have hends : EndsBeforeLength identity ↔ rest = [] := by
      constructor
      · rintro (hnil | ⟨value, hvalue, hstring⟩)
        · rw [hidentity] at hnil
          cases hnil
        · have hread := PacketReader.readString8_string8 [] hvalue
            (hvalue.trans (by decide))
          rw [List.append_nil, ← hstring, huid] at hread
          exact congrArg Prod.snd (Except.ok.inj hread)
      · intro hrest
        rw [hrest, List.append_nil] at hidentity
        exact Or.inr ⟨uid, hlength, hidentity⟩
    rw [hends]
    simp only [readIdentity, huid, bind, Except.bind]
    rcases PacketReader.readString8_cases maxNameLength rest with
      ⟨hend, hname⟩ | ⟨hmore, hname⟩ | ⟨name, tail, _, htail, hname⟩
    · rw [hname]
      exact iff_of_true ⟨_, rfl, by decide⟩ hend
    · rw [hname]
      refine iff_of_false ?_ hmore
      rintro ⟨e, he, hne⟩
      exact hne (Except.error.inj he).symm
    · rw [hname]
      apply iff_of_false
      · rintro ⟨e, he, _⟩
        cases he
      · rw [htail]
        exact List.cons_ne_nil _ _

private theorem connectVerdict_throws_iff (server : RelayServer) (version : UInt8) (rest : Bytes) :
    (∃ e, server.connectVerdict (version :: rest) = .error e) ↔
      CutBeforeLength (version :: rest) := by
  simp only [connectVerdict, PacketReader.readByte_cons]
  by_cases hversion : version = versionMajor
  · rw [if_neg (not_not.mpr hversion)]
    by_cases hlength : rest.length < 32
    · rw [if_pos hlength]
      constructor
      · rintro ⟨e, he⟩
        cases he
      · rintro ⟨hash, identity, hhash, _, hreader⟩
        rw [(List.cons.inj hreader).2, List.length_append] at hlength
        omega
    · rw [if_neg hlength]
      have hcut : CutBeforeLength (version :: rest) ↔ EndsBeforeLength (rest.drop 32) := by
        constructor
        · rintro ⟨hash, identity, hhash, hends, hreader⟩
          rw [(List.cons.inj hreader).2, ← hhash, List.drop_left]
          exact hends
        · intro hends
          refine ⟨rest.take 32, rest.drop 32, ?_, hends, ?_⟩
          · rw [List.length_take]
            omega
          · rw [List.take_append_drop, hversion]
      rw [hcut, ← readIdentity_throws_iff]
      split
      case h_1 hidentity =>
        rw [hidentity]
        constructor
        · rintro ⟨e, he⟩
          cases he
        · rintro ⟨e, he, hne⟩
          exact absurd (Except.error.inj he).symm hne
      case h_2 e hne hidentity =>
        rw [hidentity]
        exact iff_of_true ⟨e, rfl⟩ ⟨e, rfl, fun heq => hne heq⟩
      case h_3 uid name hidentity =>
        rw [hidentity]
        apply iff_of_false
        · rintro ⟨e, he⟩
          split at he
          · cases he
          · split at he <;> cases he
        · rintro ⟨e, he, _⟩
          cases he
  · rw [if_pos hversion]
    constructor
    · rintro ⟨e, he⟩
      cases he
    · rintro ⟨hash, identity, _, _, hreader⟩
      exact absurd (List.cons.inj hreader).1 hversion

private theorem length_truncateRounds (maxUtf8Bytes fuel : Nat) (value : Text)
    (hfuel : value.length ≤ fuel) :
    (encodeUtf8 (truncateRounds maxUtf8Bytes fuel value)).length ≤ maxUtf8Bytes := by
  induction fuel generalizing value with
  | zero =>
    have hnil : value = [] := List.length_eq_zero_iff.mp (Nat.le_zero.mp hfuel)
    subst hnil
    simp [truncateRounds]
  | succ fuel ih =>
    rw [truncateRounds]
    split
    · apply ih
      rw [List.length_dropLast]
      omega
    · omega

private theorem length_truncate (value : Text) (maxUtf8Bytes : Nat) :
    (encodeUtf8 (truncate value maxUtf8Bytes)).length ≤ maxUtf8Bytes :=
  length_truncateRounds maxUtf8Bytes _ value (Nat.le_refl _)

/-- The accept always fits its buffer. -/
theorem sendAccept_eq (server : RelayServer) (session : ClientSession) :
    ∃ fields, server.sendAccept session =
      { sent := [⟨session.endPoint, PacketType.connectAccept.code :: fields⟩] } := by
  have hversion := length_truncate server.serverVersion maxVersionLength
  simp only [maxVersionLength] at hversion
  simp only [sendAccept, acceptPacket, PacketWriter.writeByte, PacketWriter.writeUInt32,
    PacketWriter.writeUInt16, maxVersionLength, bind, Except.bind]
  rw [PacketWriter.put_ok (by simp)]
  dsimp only
  rw [PacketWriter.put_ok (by simp)]
  dsimp only
  rw [PacketWriter.put_ok (by simp)]
  dsimp only
  rw [PacketWriter.put_ok (by simp)]
  dsimp only
  rw [PacketWriter.writeString8_ok (by simp; omega)]
  exact ⟨_, rfl⟩

theorem sendReject_eq (remote : IPEndPoint) (reason : ConnectRejectReason) :
    sendReject remote reason =
      { sent := [⟨remote, [PacketType.connectReject.code, reason.code]⟩] } := rfl

private theorem sendClientJoined_kind {target : IPEndPoint} {subject : ClientSession} {d : Datagram}
    (h : d ∈ (sendClientJoined target subject).sent) :
    d.kind = some PacketType.clientJoined.code := by
  simp only [sendClientJoined] at h
  cases hpacket : clientJoinedPacket subject with
  | error e =>
    rw [hpacket] at h
    cases h
  | ok packet =>
    rw [hpacket] at h
    have hbytes := clientJoinedPacket_eq (clientJoinedPacket_ok hpacket)
    rw [hpacket] at hbytes
    rw [List.mem_singleton.mp h, Except.ok.inj hbytes]
    rfl

private theorem sendRoster_kind {server : RelayServer} {order : SessionOrder} {remote : IPEndPoint}
    {session : ClientSession} {d : Datagram}
    (h : d ∈ (server.sendRoster order remote session).sent) :
    d.kind = some PacketType.clientJoined.code := by
  obtain ⟨existing, _, hd⟩ := Sends.mem_each_sent h
  split at hd
  · cases hd
  · exact sendClientJoined_kind hd

private theorem broadcastClientJoined_kind {server : RelayServer} {order : SessionOrder}
    {subject : ClientSession} {except : Option UInt32} {d : Datagram}
    (h : d ∈ (server.broadcastClientJoined order subject except).sent) :
    d.kind = some PacketType.clientJoined.code := by
  obtain ⟨target, _, hd⟩ := Sends.mem_each_sent h
  split at hd
  · cases hd
  · split at hd
    · cases hd
    · exact sendClientJoined_kind hd

theorem broadcastClientLeft_kind {server : RelayServer} {order : SessionOrder}
    {sessionId : UInt32} {except : Option UInt32} {d : Datagram}
    (h : d ∈ (server.broadcastClientLeft order sessionId except).sent) :
    d.kind = some PacketType.clientLeft.code := by
  rw [broadcastClientLeft, clientLeftPacket_eq] at h
  obtain ⟨target, _, hd⟩ := Sends.mem_each_sent h
  split at hd
  · cases hd
  · rw [List.mem_singleton.mp hd]
    rfl

theorem announceStale_kind {server : RelayServer} {order : SessionOrder} {uid : Text}
    {d : Datagram}
    (h : d ∈ (server.announceStale order uid).sent) :
    d.kind = some PacketType.clientLeft.code := by
  simp only [announceStale] at h
  split at h
  · cases h
  · exact broadcastClientLeft_kind h

/-- What an admitted request makes the relay send: the announcement that the stale session left,
then the reject, or the accept and announcements that somebody joined. -/
theorem admitClient_sent (server : RelayServer) (now : Int) (order : SessionOrder)
    (remote : IPEndPoint) (uid name : Text) :
    if (server.dropStale uid).isFull then
      (server.admitClient now order remote uid name).sent =
        (server.announceStale order uid).sent ++
          [⟨remote, [PacketType.connectReject.code, ConnectRejectReason.serverFull.code]⟩]
    else ∃ fields joined,
      (server.admitClient now order remote uid name).sent =
        (server.announceStale order uid).sent ++
          ⟨remote, PacketType.connectAccept.code :: fields⟩ :: joined ∧
      ∀ d ∈ joined, d.kind = some PacketType.clientJoined.code := by
  have hleft := announceStale_thrown server order uid
  simp only [admitClient, hleft, Option.isSome_none, Bool.false_eq_true, if_false]
  split
  · rw [Sends.andThen_of_none hleft]
    rfl
  · obtain ⟨fields, haccept⟩ := sendAccept_eq ((server.dropStale uid).register now
      ((server.dropStale uid).newSession remote uid name))
      ((server.dropStale uid).newSession remote uid name)
    rw [Sends.andThen_of_none hleft, haccept, Sends.andThen_of_none rfl]
    refine ⟨fields, _, rfl, ?_⟩
    intro d hd
    rcases Sends.mem_andThen_sent hd with hroster | hjoined
    · exact sendRoster_kind hroster
    · exact broadcastClientJoined_kind hjoined

private theorem isAnswer_of_kind {d : Datagram} {t : PacketType} (h : d.kind = some t.code)
    (haccept : t ≠ .connectAccept) (hreject : t ≠ .connectReject) (remote : IPEndPoint) :
    d.isAnswer remote = false := by
  simp only [Datagram.isAnswer, h, Option.some.injEq]
  cases t <;> first | exact absurd rfl haccept | exact absurd rfl hreject | simp [PacketType.code]

private theorem answers_eq_zero {sent : List Datagram} {t : PacketType}
    (h : ∀ d ∈ sent, d.kind = some t.code) (haccept : t ≠ .connectAccept)
    (hreject : t ≠ .connectReject) (remote : IPEndPoint) :
    answers remote sent = 0 := by
  apply List.countP_eq_zero.mpr
  intro d hd
  rw [isAnswer_of_kind (h d hd) haccept hreject]
  decide

private theorem answers_cons_answer {remote : IPEndPoint} {d : Datagram}
    (h : d.isAnswer remote = true) (sent : List Datagram) :
    answers remote (d :: sent) = answers remote sent + 1 :=
  List.countP_cons_of_pos h

private theorem answers_append (remote : IPEndPoint) (sent later : List Datagram) :
    answers remote (sent ++ later) = answers remote sent + answers remote later :=
  List.countP_append

private theorem isAnswer_accept (remote : IPEndPoint) (fields : Bytes) :
    Datagram.isAnswer remote ⟨remote, PacketType.connectAccept.code :: fields⟩ = true := by
  simp [Datagram.isAnswer, Datagram.kind]

private theorem isAnswer_reject (remote : IPEndPoint) (reason : ConnectRejectReason) :
    Datagram.isAnswer remote ⟨remote, [PacketType.connectReject.code, reason.code]⟩ = true := by
  simp [Datagram.isAnswer, Datagram.kind]

private theorem answers_admitClient (server : RelayServer) (now : Int) (order : SessionOrder)
    (remote : IPEndPoint) (uid name : Text) :
    answers remote (server.admitClient now order remote uid name).sent = 1 := by
  have hleft : answers remote (server.announceStale order uid).sent = 0 :=
    answers_eq_zero (fun d hd => announceStale_kind hd) (by decide) (by decide) remote
  have hsent := admitClient_sent server now order remote uid name
  split at hsent
  · rw [hsent, answers_append, hleft, answers_cons_answer (isAnswer_reject _ _)]
    rfl
  · obtain ⟨fields, joined, hsent, hjoined⟩ := hsent
    have hlater : answers remote joined = 0 :=
      answers_eq_zero hjoined (by decide) (by decide) remote
    rw [hsent, answers_append, hleft, answers_cons_answer (isAnswer_accept _ _), hlater]

/-- A connection attempt is answered exactly once, unless it is cut before a length byte. -/
theorem answered_once_iff (server : RelayServer) (now : Int) (order : SessionOrder)
    (remote : IPEndPoint) (version : UInt8) (rest : Bytes) :
    answers remote (server.handlePacket now order
      (PacketType.connectRequest.code :: version :: rest) remote).sent = 1 ↔
        ¬ CutBeforeLength (version :: rest) := by
  rw [← connectVerdict_throws_iff server]
  simp only [handlePacket, PacketType.ofCode_code, handleConnectRequest]
  cases hverdict : server.connectVerdict (version :: rest) with
  | error e =>
    refine iff_of_false ?_ (not_not.mpr ⟨e, rfl⟩)
    show ¬ (0 = 1)
    decide
  | ok verdict =>
    apply iff_of_true
    · cases verdict with
      | reject reason =>
        show answers remote (sendReject remote reason).sent = 1
        rw [sendReject_eq, answers_cons_answer (isAnswer_reject _ _)]
        rfl
      | proceed uid name => exact answers_admitClient server now order remote uid name
    · rintro ⟨e, he⟩
      cases he

/-- A request that ends after the password hash gets no answer. -/
theorem request_unanswered :
    answers ⟨1, 5000⟩ ((Relay.start {} emptyPasswordHash ['1']).server.handlePacket 0 .stored
      (PacketType.connectRequest.code :: versionMajor :: emptyPasswordHash)
        ⟨1, 5000⟩).sent = 0 := by
  decide

end RelayServer

end TaskForceRadio.VoiceServer
