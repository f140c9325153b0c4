import ArchiveCatalog.Sql.Program

namespace ArchiveCatalog.Sql

/-- How a server answers next. -/
inductive Reaction where
  /-- Let the opening of a connection fail; a statement does not notice. -/
  | refuseConnection (error : PoolError)
  | reply (reply : Reply)
  | fail (error : ConnectionError)
  /-- Close the connection instead of answering. -/
  | disconnect
  /-- Answer as an empty database does. -/
  | plain

structure Login where
  user : String
  database : String
  searchPath : Option String
  deriving DecidableEq

namespace Login

def account : String := "root"

/-- An empty user name stands for the account of the program. -/
def ofConfig (config : SqlConfig) : Login :=
  ⟨if config.user.isEmpty then account else config.user, config.dbname, config.searchPath⟩

def options (login : Login) : Option String :=
  login.searchPath.map ("-c search_path=" ++ ·)

end Login

inductive Call where
  | connect (login : Login)
  | query (query : Query)
  | script (script : Script)

/-- A server with the reactions that are left, and what it was asked, the latest first. -/
structure Server where
  reactions : List Reaction
  asked : List Call

namespace Server

def new (reactions : List Reaction) : Server := ⟨reactions, []⟩

def calls (server : Server) : List Call := server.asked.reverse

def note (call : Call) (server : Server) : Server :=
  { server with asked := call :: server.asked }

/-- The fault that the next connection meets, if the script has one at this place. -/
def takeFault (server : Server) : Option PoolError × Server :=
  match server.reactions with
  | .refuseConnection error :: rest => (some error, { server with reactions := rest })
  | _ => (none, server)

def takeReaction (server : Server) : Reaction × Server :=
  match server.reactions with
  | [] => (.plain, server)
  | reaction :: rest => (reaction, { server with reactions := rest })

/-- What an empty database answers. -/
def plainReply : Query → Reply
  | .ping => ⟨[[.integer 1]], 1⟩
  | .sizeTotals .. => ⟨[[.integer 0, .integer 0]], 1⟩
  | _ => ⟨[], 0⟩

end Server

inductive Link where
  | absent
  | sound
  | broken
  deriving DecidableEq

/-- A pool of connections that are used one at a time. -/
structure Pool where
  login : Login
  /-- Whether the server listens where the pool looks for it. -/
  reachable : Bool
  link : Link
  closed : Bool

namespace Pool

def new (config : SqlConfig) (reachable : Bool) : Pool :=
  ⟨.ofConfig config, reachable, .absent, false⟩

def size (pool : Pool) : Nat := if pool.link = .absent then 0 else 1

def close (pool : Pool) : Pool := { pool with link := .absent, closed := true }

def connect (pool : Pool) (server : Server) : Except PoolError Unit × Pool × Server :=
  if pool.reachable then
    match (server.note (.connect pool.login)).takeFault with
    | (some error, server) => (.error error, { pool with link := .absent }, server)
    | (none, server) => (.ok (), { pool with link := .sound }, server)
  else (.error (.opening .unreachable), { pool with link := .absent }, server)

/-- Provide a sound connection. -/
def acquire (pool : Pool) (server : Server) : Except PoolError Unit × Pool × Server :=
  if pool.closed then (.error .closed, pool, server)
  else if pool.link = .sound then (.ok (), pool, server)
  else pool.connect server

/-- Send a statement; `plain` is what an empty database answers, `taken` what is made of a
scripted reply. -/
def send (pool : Pool) (server : Server) (call : Call) (plain : α) (taken : Reply → α) :
    Except ConnectionError α × Pool × Server :=
  match (server.note call).takeReaction with
  | (.refuseConnection _, server) => (.ok plain, pool, server)
  | (.plain, server) => (.ok plain, pool, server)
  | (.reply reply, server) => (.ok (taken reply), pool, server)
  | (.fail error, server) => (.error error, pool, server)
  | (.disconnect, server) => (.error .closed, { pool with link := .broken }, server)

def answer (state : Pool × Server) :
    (request : Request) → request.Response × Pool × Server
  | .acquire => state.1.acquire state.2
  | .query query => state.1.send state.2 (.query query) (Server.plainReply query) id
  | .script script => state.1.send state.2 (.script script) () fun _ => ()
  | .pause _ => ((), state)
  | .close => ((), state.1.close, state.2)
  | .poolSize => (state.1.size, state)

def run (program : Program α) (state : Pool × Server) : α × Pool × Server :=
  program.run answer state

end Pool

end ArchiveCatalog.Sql
