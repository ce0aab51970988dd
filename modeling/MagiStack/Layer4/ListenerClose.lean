import MagiStack.Layer4.TcpTable

/-!
# ListenerClose — what `tcp_socket_close` does to a listener

`tcp_socket_alloc` and `tcp_socket_find` on a table of any size, and a listener in it that is closed.
`tcp_socket_close` changes its state only.  The second loop of `tcp_socket_find` does not look at the state,
and `tcp_socket_alloc` takes no slot that is in use and listens; so the listener goes on, and keeps its
slot.
-/

namespace MagiStack

/-! ## Tables of any size -/

/-- `tcp_socket_alloc` on `count` sockets: the place of the slot it hands out. -/
def tcpAllocIndex (sockets : List TcpSocket) : Option Nat :=
  (sockets.findIdx? fun socket => !socket.inUse).or
    (sockets.findIdx? fun socket => socket.inUse && !socket.isListening && socket.state == .timeWait)

/-- `tcp_socket_find` on `count` sockets: the place of the socket it returns. -/
def tcpFindIndex (sockets : List TcpSocket) (localIp : IpAddress) (localPort : UInt16) (remoteIp : IpAddress)
    (remotePort : UInt16) : Option Nat :=
  (sockets.findIdx? fun socket => tcpSocketMatches socket localIp localPort remoteIp remotePort).or
    (sockets.findIdx? fun socket => tcpSocketListens socket localIp localPort)

theorem tcpFirstSlot_eq_findIdx? (sockets : TcpTable) (p : TcpSocket → Bool) :
    (tcpFirstSlot fun i => p (sockets i)).map Fin.val = (List.ofFn sockets).findIdx? p := by
  cases hfound : tcpFirstSlot fun i => p (sockets i) with
  | none =>
      refine (List.findIdx?_eq_none_iff.mpr fun socket hmem => ?_).symm
      obtain ⟨i, rfl⟩ := List.mem_ofFn.mp hmem
      exact tcpFirstSlot_eq_none hfound i
  | some slot =>
      obtain ⟨hslot, hbefore⟩ := tcpFirstSlot_eq_some_iff.mp hfound
      refine (List.findIdx?_eq_some_iff_getElem.mpr ⟨by simp, ?_, fun j hj => ?_⟩).symm
      · rw [List.getElem_ofFn]
        exact hslot
      · rw [List.getElem_ofFn, Bool.not_eq_true]
        exact hbefore ⟨j, hj.trans slot.isLt⟩ hj

/-- The slots of a host are a table of sixteen sockets. -/
theorem tcpAllocSlot_eq_index (sockets : TcpTable) :
    (tcpAllocSlot sockets).map Fin.val = tcpAllocIndex (List.ofFn sockets) := by
  rw [tcpAllocSlot, tcpAllocIndex, Option.map_or,
    tcpFirstSlot_eq_findIdx? sockets fun socket => !socket.inUse,
    tcpFirstSlot_eq_findIdx? sockets fun socket =>
      socket.inUse && !socket.isListening && socket.state == .timeWait]

theorem tcpSocketFind_eq_index (sockets : TcpTable) (localIp : IpAddress) (localPort : UInt16)
    (remoteIp : IpAddress) (remotePort : UInt16) :
    (tcpSocketFind sockets localIp localPort remoteIp remotePort).map Fin.val =
      tcpFindIndex (List.ofFn sockets) localIp localPort remoteIp remotePort := by
  rw [tcpSocketFind, tcpFindIndex, Option.map_or,
    tcpFirstSlot_eq_findIdx? sockets fun socket =>
      tcpSocketMatches socket localIp localPort remoteIp remotePort,
    tcpFirstSlot_eq_findIdx? sockets fun socket => tcpSocketListens socket localIp localPort]

/-! ## What closing leaves as it is -/

/-- `tcp_socket_close` changes the state only. -/
theorem tcpSocketClose_eq (socket : TcpSocket) :
    (tcpSocketClose socket).2 = { socket with state := (tcpSocketClose socket).2.state } := by
  rw [tcpSocketClose]
  split
  all_goals rfl

theorem tcpSocketClose_listens (socket : TcpSocket) (localIp : IpAddress) (localPort : UInt16) :
    tcpSocketListens (tcpSocketClose socket).2 localIp localPort =
      tcpSocketListens socket localIp localPort := by
  rw [tcpSocketClose_eq]
  rfl

/-- A listener is in no tuple, in whatever state it is. -/
theorem tcpSocketMatches_listener {socket : TcpSocket} (h : socket.isListening = true) (localIp : IpAddress)
    (localPort : UInt16) (remoteIp : IpAddress) (remotePort : UInt16) :
    tcpSocketMatches socket localIp localPort remoteIp remotePort = false := by
  simp [tcpSocketMatches, h]

/-- A socket that is exchanged for one that passes the same test is found in the same place. -/
theorem findIdx?_set_eq {sockets : List TcpSocket} {i : Nat} {old new : TcpSocket} {p : TcpSocket → Bool}
    (hold : sockets[i]? = some old) (hsame : p new = p old) :
    (sockets.set i new).findIdx? p = sockets.findIdx? p := by
  induction sockets generalizing i with
  | nil => rfl
  | cons socket sockets ih =>
      cases i with
      | zero =>
          obtain rfl : socket = old := by simpa using hold
          rw [List.set_cons_zero, List.findIdx?_cons, List.findIdx?_cons, hsame]
      | succ i =>
          rw [List.set_cons_succ, List.findIdx?_cons, List.findIdx?_cons, ih (by simpa using hold)]

section Closed

variable {sockets : List TcpSocket} {i : Nat} {listener : TcpSocket}

/-- Every lookup gives what it gave before the close. -/
theorem tcpFindIndex_close (hget : sockets[i]? = some listener) (hlisten : listener.isListening = true)
    (localIp : IpAddress) (localPort : UInt16) (remoteIp : IpAddress) (remotePort : UInt16) :
    tcpFindIndex (sockets.set i (tcpSocketClose listener).2) localIp localPort remoteIp remotePort =
      tcpFindIndex sockets localIp localPort remoteIp remotePort := by
  have hclosed : (tcpSocketClose listener).2.isListening = true := by
    rw [tcpSocketClose_eq]
    exact hlisten
  have hmatches : tcpSocketMatches (tcpSocketClose listener).2 localIp localPort remoteIp remotePort =
      tcpSocketMatches listener localIp localPort remoteIp remotePort := by
    rw [tcpSocketMatches_listener hclosed, tcpSocketMatches_listener hlisten]
  have hfirst := findIdx?_set_eq
    (p := fun socket => tcpSocketMatches socket localIp localPort remoteIp remotePort) hget hmatches
  have hsecond := findIdx?_set_eq (p := fun socket => tcpSocketListens socket localIp localPort) hget
    (tcpSocketClose_listens listener localIp localPort)
  rw [tcpFindIndex, hfirst, hsecond, tcpFindIndex]

/-- No slot that is in use and listens is handed out. -/
theorem tcpAllocIndex_ne_listener (hget : sockets[i]? = some listener) (huse : listener.inUse = true)
    (hlisten : listener.isListening = true) : tcpAllocIndex sockets ≠ some i := by
  intro halloc
  rw [tcpAllocIndex, Option.or_eq_some_iff] at halloc
  rcases halloc with hfree | ⟨-, hwait⟩
  · obtain ⟨hlt, hfree, -⟩ := List.findIdx?_eq_some_iff_getElem.mp hfree
    rw [(List.getElem?_eq_some_iff.mp hget).2, huse] at hfree
    cases hfree
  · obtain ⟨hlt, hwait, -⟩ := List.findIdx?_eq_some_iff_getElem.mp hwait
    rw [(List.getElem?_eq_some_iff.mp hget).2, hlisten] at hwait
    simp at hwait

/-- No listener is found behind one at the same address. -/
theorem tcpFindIndex_ne_behind {localIp : IpAddress} {localPort : UInt16} {j : Nat} {later : TcpSocket}
    (hget : sockets[i]? = some listener) (hlistens : tcpSocketListens listener localIp localPort = true)
    (hlater : sockets[j]? = some later) (hlisten : later.isListening = true) (hij : i < j)
    (remoteIp : IpAddress) (remotePort : UInt16) :
    tcpFindIndex sockets localIp localPort remoteIp remotePort ≠ some j := by
  intro hfind
  rw [tcpFindIndex, Option.or_eq_some_iff] at hfind
  rcases hfind with hmatch | ⟨-, hfound⟩
  · obtain ⟨hlt, hmatch, -⟩ := List.findIdx?_eq_some_iff_getElem.mp hmatch
    rw [(List.getElem?_eq_some_iff.mp hlater).2, tcpSocketMatches_listener hlisten] at hmatch
    cases hmatch
  · obtain ⟨hlt, -, hbefore⟩ := List.findIdx?_eq_some_iff_getElem.mp hfound
    have hnot := hbefore i hij
    rw [(List.getElem?_eq_some_iff.mp hget).2, hlistens] at hnot
    exact hnot rfl

end Closed

theorem ofFn_update {count : Nat} (sockets : Fin count → TcpSocket) (slot : Fin count) (socket : TcpSocket) :
    List.ofFn (Function.update sockets slot socket) = (List.ofFn sockets).set slot socket := by
  refine List.ext_getElem (by simp) fun i hi _ => ?_
  rw [List.getElem_ofFn, List.getElem_set, List.getElem_ofFn]
  by_cases hslot : slot.val = i
  · rw [if_pos hslot, show (⟨i, by simpa using hi⟩ : Fin count) = slot from Fin.ext hslot.symm,
      Function.update_self]
  · rw [if_neg hslot, Function.update_of_ne fun heq => hslot (congrArg Fin.val heq).symm]

/-- In the slots of a host, a listener that is closed changes no lookup and keeps its slot. -/
theorem tcpSocketClose_listener_slots {sockets : TcpTable} {slot : Fin tcpMaxSockets}
    (huse : (sockets slot).inUse = true) (hlisten : (sockets slot).isListening = true) :
    (∀ localIp localPort remoteIp remotePort,
      tcpSocketFind (Function.update sockets slot (tcpSocketClose (sockets slot)).2) localIp localPort remoteIp
          remotePort =
        tcpSocketFind sockets localIp localPort remoteIp remotePort) ∧
      tcpAllocSlot (Function.update sockets slot (tcpSocketClose (sockets slot)).2) ≠ some slot := by
  have hlength : slot.val < (List.ofFn sockets).length := by
    rw [List.length_ofFn]
    exact slot.isLt
  have hget : (List.ofFn sockets)[slot.val]? = some (sockets slot) := by
    rw [List.getElem?_eq_getElem hlength, List.getElem_ofFn]
  refine ⟨fun localIp localPort remoteIp remotePort => ?_, fun halloc => ?_⟩
  · refine Option.map_injective Fin.val_injective ?_
    rw [tcpSocketFind_eq_index, tcpSocketFind_eq_index, ofFn_update]
    exact tcpFindIndex_close hget hlisten localIp localPort remoteIp remotePort
  · have hindex := congrArg (Option.map Fin.val) halloc
    rw [tcpAllocSlot_eq_index, ofFn_update] at hindex
    have hclosed : ((List.ofFn sockets).set slot (tcpSocketClose (sockets slot)).2)[slot.val]? =
        some (tcpSocketClose (sockets slot)).2 :=
      List.getElem?_set_self hlength
    exact tcpAllocIndex_ne_listener hclosed (by rwa [tcpSocketClose_eq]) (by rwa [tcpSocketClose_eq]) hindex

/-! ## A listener that is closed -/

/-- What is asked of a listener that was closed in slot `i`: it is found for no tuple; another socket that
listens at its address is found instead, if nothing else is there; and for some sockets in the other slots,
its slot is handed out. -/
structure ListenerStopped (sockets : List TcpSocket) (i : Nat) (closed : TcpSocket) : Prop where
  unfound : ∀ localIp localPort remoteIp remotePort,
    tcpFindIndex sockets localIp localPort remoteIp remotePort ≠ some i
  relistened : ∀ j, j ≠ i → j < sockets.length → ∀ remoteIp remotePort,
    (∀ k socket, k ≠ j → sockets[k]? = some socket →
      tcpSocketMatches socket closed.localIp closed.localPort remoteIp remotePort = false ∧
        (k ≠ i → tcpSocketListens socket closed.localIp closed.localPort = false)) →
    tcpFindIndex (sockets.set j (tcpSocketListen tcpSocketAllocated closed.localIp closed.localPort))
      closed.localIp closed.localPort remoteIp remotePort = some j
  available : ∃ others : List TcpSocket, others[i]? = some closed ∧ tcpAllocIndex others = some i

/-- No listener is stopped by `tcp_socket_close`, whatever it returns.  Every tuple is still looked up as
before; a socket that listens at the address again, in a slot behind the closed one, is not found; and the
slot is never handed out, whatever becomes of the others. -/
theorem tcpSocketClose_listener_not_stopped {sockets : List TcpSocket} {i : Nat} {listener : TcpSocket}
    (hget : sockets[i]? = some listener) (huse : listener.inUse = true)
    (hlisten : listener.isListening = true) :
    ¬ ListenerStopped (sockets.set i (tcpSocketClose listener).2) i (tcpSocketClose listener).2 ∧
      (∀ localIp localPort remoteIp remotePort,
        tcpFindIndex (sockets.set i (tcpSocketClose listener).2) localIp localPort remoteIp remotePort =
          tcpFindIndex sockets localIp localPort remoteIp remotePort) ∧
      (∀ j, i < j → j < sockets.length → ∀ remoteIp remotePort,
        tcpFindIndex
            ((sockets.set i (tcpSocketClose listener).2).set j
              (tcpSocketListen tcpSocketAllocated listener.localIp listener.localPort))
            listener.localIp listener.localPort remoteIp remotePort ≠ some j) ∧
      ∀ others : List TcpSocket, others[i]? = some (tcpSocketClose listener).2 →
        tcpAllocIndex others ≠ some i := by
  have hclosedUse : (tcpSocketClose listener).2.inUse = true := by
    rw [tcpSocketClose_eq]
    exact huse
  have hclosedListen : (tcpSocketClose listener).2.isListening = true := by
    rw [tcpSocketClose_eq]
    exact hlisten
  have hslot : ∀ others : List TcpSocket, others[i]? = some (tcpSocketClose listener).2 →
      tcpAllocIndex others ≠ some i := fun others hothers =>
    tcpAllocIndex_ne_listener hothers hclosedUse hclosedListen
  refine ⟨fun hstopped => ?_, tcpFindIndex_close hget hlisten, fun j hij hj remoteIp remotePort => ?_,
    hslot⟩
  · obtain ⟨others, hothers, halloc⟩ := hstopped.available
    exact hslot others hothers halloc
  -- The closed socket still listens, and comes first.
  · have hclosed : ((sockets.set i (tcpSocketClose listener).2).set j
        (tcpSocketListen tcpSocketAllocated listener.localIp listener.localPort))[i]? =
          some (tcpSocketClose listener).2 := by
      rw [List.getElem?_set_ne (by omega), List.getElem?_set_self (hij.trans hj)]
    have hlistens : tcpSocketListens (tcpSocketClose listener).2 listener.localIp listener.localPort =
        true := by
      rw [tcpSocketClose_listens]
      simp [tcpSocketListens, huse, hlisten, ipOctetsEqualPublic]
    exact tcpFindIndex_ne_behind hclosed hlistens (List.getElem?_set_self (by simpa using hj)) rfl hij remoteIp
      remotePort

/-- A table of one socket, which listens at port 80. -/
def listenerTable : List TcpSocket :=
  [tcpSocketListen tcpSocketAllocated ⟨10, 0, 0, 1, 24⟩ 80]

theorem tcpSocketClose_listener_not_stopped_one :
    ¬ ListenerStopped
      (listenerTable.set 0 (tcpSocketClose (tcpSocketListen tcpSocketAllocated ⟨10, 0, 0, 1, 24⟩ 80)).2) 0
      (tcpSocketClose (tcpSocketListen tcpSocketAllocated ⟨10, 0, 0, 1, 24⟩ 80)).2 :=
  (@tcpSocketClose_listener_not_stopped listenerTable 0 _ rfl rfl rfl).1

/-- The closed listener of this table is found for the next SYN. -/
theorem tcpSocketClose_listener_goes_on :
    ¬ ∀ (sockets : List TcpSocket) (i : Nat) (listener : TcpSocket), sockets[i]? = some listener →
        listener.inUse = true → listener.isListening = true → (tcpSocketClose listener).1 = true →
        ListenerStopped (sockets.set i (tcpSocketClose listener).2) i (tcpSocketClose listener).2 := by
  intro hall
  have hstopped := hall listenerTable 0 _ rfl rfl rfl rfl
  exact hstopped.unfound ⟨10, 0, 0, 1, 24⟩ 80 ⟨10, 0, 0, 2, 24⟩ 5000 (by decide)

end MagiStack
