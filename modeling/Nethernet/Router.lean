import Nethernet.Error
import Nethernet.Foundation.Table
import Nethernet.Net

/-! The routing of the datagrams of one socket to the sessions that share it. -/

set_option autoImplicit false

namespace Nethernet
open Foundation

structure Router (K : Type) where
  byAddr : Table SocketAddr K
  provisional : Table SocketAddr (List K)
  byUfrag : Table String K

namespace Router
variable {K : Type} [DecidableEq K]

def empty : Router K := ⟨∅, ∅, ∅⟩

def route (router : Router K) (isStun : Bytes → Bool) (localUfrag : Bytes → Option String)
    (source : SocketAddr) (datagram : Bytes) : List K :=
  match router.byAddr.lookup source with
  | some id => [id]
  | none =>
    if !isStun datagram then []
    else
      match (localUfrag datagram).bind router.byUfrag.lookup with
      | some id => [id]
      | none => (router.provisional.lookup source).getD []

def registerUfrag (router : Router K) (ufrag : String) (id : K) : Router K :=
  { router with byUfrag := router.byUfrag.insert ufrag id }

-- the first to claim an address keeps it
def claimAddr (router : Router K) (addr : SocketAddr) (id : K) : Router K :=
  match router.byAddr.lookup addr with
  | some _ => router
  | none => { router with byAddr := router.byAddr.insert addr id }

def noteSent (router : Router K) (addr : SocketAddr) (id : K) : Router K :=
  { router with provisional := router.provisional.insert addr (((router.provisional.lookup addr).getD []).insert id) }

def release (router : Router K) (id : K) (ufrag : String) (addr : Option SocketAddr) : Router K where
  byUfrag := router.byUfrag.erase ufrag
  byAddr :=
    match addr with
    | none => router.byAddr
    | some addr => if router.byAddr.lookup addr = some id then router.byAddr.erase addr else router.byAddr
  provisional := (router.provisional.map fun _ ids => ids.erase id).retain fun _ ids => !ids.isEmpty

omit [DecidableEq K] in
theorem lookup_claimAddr (router : Router K) (addr : SocketAddr) (id : K) (other : SocketAddr) :
    (router.claimAddr addr id).byAddr.lookup other =
      (router.byAddr.lookup other).or (if other = addr then some id else none) := by
  unfold claimAddr
  by_cases same : other = addr
  · subst same
    rw [if_pos rfl]
    cases held : router.byAddr.lookup other with
    | some owner => simp [held]
    | none => simp
  · rw [if_neg same, Option.or_none]
    split
    · rfl
    · exact AList.lookup_insert_ne same

end Router

end Nethernet
