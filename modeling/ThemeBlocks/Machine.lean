import ThemeBlocks.Host

/-! A host without a world: its files are a tree, the network plays prepared deliveries, and what is
sent and noted is kept. A run of a command on a machine is a function, so that what the command did can
be read off the machine that is left. -/

namespace ThemeBlocks

structure Machine where
  tree : Files.Tree := {}
  /-- The working directory, as a path and as a place in the tree. -/
  directory : Files.Path
  place : Files.Location
  environment : List (String × String) := []
  /-- What the next requests bring back. -/
  deliveries : List Web.Delivery := []
  /-- What a request brings back when nothing is prepared. -/
  ending : Web.Delivery := .dropped
  requests : List Web.Request := []
  journal : List Entry := []

namespace Machine

abbrev Run := StateM Machine

def readText (path : Files.Path) : Run (Except Files.DiskError String) := do
  let machine ← get
  pure (machine.tree.readText machine.place path)

def makeDirectories (path : Files.Path) : Run (Except Files.DiskError Unit) := do
  let machine ← get
  let (result, tree) := machine.tree.makeDirectories machine.place path
  set { machine with tree }
  pure result

def writeText (path : Files.Path) (text : String) : Run (Except Files.DiskError Unit) := do
  let machine ← get
  match machine.tree.writeText machine.place path text with
  | .ok tree =>
    set { machine with tree }
    pure (.ok ())
  | .error error => pure (.error error)

def exchange (request : Web.Request) : Run Web.Delivery := do
  let machine ← get
  let sent := { machine with requests := machine.requests ++ [request] }
  match machine.deliveries with
  | [] =>
    set sent
    pure machine.ending
  | delivery :: deliveries =>
    set { sent with deliveries }
    pure delivery

def note (entry : Entry) : Run Unit :=
  modify fun machine => { machine with journal := machine.journal ++ [entry] }

def variableNamed (name : String) : Run (Option String) := do
  pure (((← get).environment.find? (·.1 = name)).map (·.2))

instance : Host Run where
  isPresent path := do
    let machine ← get
    pure (machine.tree.isPresent machine.place path)
  readText
  makeDirectories
  writeText
  exchange
  note
  workingDirectory := do pure (← get).directory
  variableNamed

end Machine

end ThemeBlocks
