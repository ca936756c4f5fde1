import Toxcore.Native.DHT

/-!
# Routing packets to friends

`foreach_ip_port` of `DHT.c` and the two functions by which packets are routed to a friend through the
nodes in its client list.
-/

namespace Toxcore

/-- What the environment decides while a packet is routed. -/
structure RouteEnv where
  /-- `mono_time_get`, in seconds -/
  now : UInt64
  /-- Whether the whole packet is sent, after some number of other packets. -/
  sendPacket : Nat → IPPort → Bool
  /-- `random_range_u32` -/
  random : Nat

/-- `send_packet` gives the length after `sent` was sent; an unset address is refused. -/
def RouteEnv.sends (env : RouteEnv) (sent : List IPPort) (ipPort : IPPort) : Bool :=
  !ipPort.isUnspec && env.sendPacket sent.length ipPort

namespace IPPTsPng

def retIpIsset (assoc : IPPTsPng) : Bool := !assoc.retIpPort.isUnspec

/-- The timeout of the address that was returned. -/
def retTimeout (now : UInt64) (assoc : IPPTsPng) : Bool :=
  monoTimeIsTimeout now assoc.retTimestamp badNodeTimeout

end IPPTsPng

/-- `assocs` of `foreach_ip_port` -/
def ClientData.assocs (client : ClientData) : List IPPTsPng := [client.assoc4, client.assoc6]

section

variable {σ : Type} (now : UInt64) (callback : IPPort → σ → Bool × σ)

/-- The inner loop of `foreach_ip_port`. -/
def assocLoop : List IPPTsPng → σ → σ
  | [], s => s
  | assoc :: assocs, s =>
    if !assoc.retIpIsset && !assoc.retTimeout now then assocLoop assocs s
    else
      let (again, s) := callback assoc.ipPort s
      if !again then s else assocLoop assocs s

/-- One entry of the client list. -/
def visitClient (s : σ) (client : ClientData) : σ := assocLoop now callback client.assocs s

/-- `foreach_ip_port`; `n` is part of the state of the callback. -/
def foreachIpPort (clientList : List ClientData) (s : σ) : σ := clientList.foldl (visitClient now callback) s

end

/-- `send_packet_to_friend`.  The state is what was sent so far, whose number is `n`. -/
def sendPacketToFriend (env : RouteEnv) (ipPort : IPPort) (sent : List IPPort) : Bool × List IPPort :=
  if env.sends sent ipPort then (false, sent ++ [ipPort]) else (true, sent)

/-- `get_ip_port`; the state is `ip_list`, whose length is `n`. -/
def getIpPort (ipPort : IPPort) (ipList : List IPPort) : Bool × List IPPort := (true, ipList ++ [ipPort])

namespace DHT

def friendIplist (dht : DHT) (now : UInt64) (friendNum : Nat) : Option (List IPPort) :=
  match dht.friends[friendNum]? with
  | none => none
  | some dhtFriend =>
    let good (assoc : IPPTsPng) : Bool := assoc.retIpIsset && !assoc.retTimeout now
    let ipv4s := (dhtFriend.clientList.map (·.assoc4)).filter good
    let ipv6s := (dhtFriend.clientList.map (·.assoc6)).filter good
    if dhtFriend.clientList.any fun client => client.publicKey == dhtFriend.publicKey &&
        (!assocTimeout dht.curTime client.assoc6 || !assocTimeout dht.curTime client.assoc4) then
      -- direct connectivity
      some []
    else if ipv6s.length ≥ ipv4s.length then some (ipv6s.map (·.retIpPort))
    else some (ipv4s.map (·.retIpPort))

/-- `route_to_friend`: the addresses that the packet was sent to. -/
def routeToFriend (dht : DHT) (env : RouteEnv) (friendId : PublicKey) : List IPPort :=
  match dht.indexOfFriendPk friendId with
  | none => []
  | some num =>
    match dht.friendIplist env.now num with
    | none => []
    | some ipList =>
      if ipList.length < maxFriendClients / 4 then []
      else
        match dht.friends[num]? with
        | none => []
        | some dhtFriend => foreachIpPort env.now (sendPacketToFriend env) dhtFriend.clientList []

/-- `routeone_to_friend`: the address that the packet was sent to, if it was. -/
def routeoneToFriend (dht : DHT) (env : RouteEnv) (friendId : PublicKey) : List IPPort :=
  match dht.indexOfFriendPk friendId with
  | none => []
  | some num =>
    match dht.friends[num]? with
    | none => []
    | some dhtFriend =>
      let ipList := foreachIpPort env.now getIpPort dhtFriend.clientList []
      if ipList.length < 1 then []
      else
        match ipList[env.random % ipList.length]? with
        | none => []
        | some ipPort => if env.sends [] ipPort then [ipPort] else []

end DHT

end Toxcore
