import SessionHandoff.Machine.Basic
import SessionHandoff.Machine.Programs

/-!
# The standard machine

The standard machine has the programs of this library. Its files are the folders and devices that
every machine has, the reports on the running process, and a list of users.
-/

set_option autoImplicit false

namespace SessionHandoff.Machine

/-- How deep programs start one another on the standard machine. -/
def programDepth : Nat := 64

/-- The machine with the kernel and the programs of this library. -/
def standard : Machine := ⟨.linux, programTable programDepth⟩

/-! ## Files -/

/-- The folders that every machine has. -/
def folders : List Place :=
  [["boot"], ["dev"], ["dev", "mqueue"], ["dev", "pts"], ["dev", "shm"], ["etc"], ["home"],
    ["media"], ["mnt"], ["opt"], ["proc"], ["proc", "0"], ["proc", "0", "fd"], ["root"], ["run"],
    ["srv"], ["sys"], ["tmp"], ["usr"], ["usr", "bin"], ["usr", "games"], ["usr", "include"],
    ["usr", "lib"], ["usr", "lib64"], ["usr", "local"], ["usr", "local", "bin"],
    ["usr", "local", "sbin"], ["usr", "sbin"], ["usr", "share"], ["usr", "src"], ["var"],
    ["var", "cache"], ["var", "lib"], ["var", "log"], ["var", "mail"], ["var", "opt"],
    ["var", "spool"], ["var", "tmp"]]

/-- The links that every machine has. The running process has a folder of its own, which stands
where that of a process with the number zero would. -/
def links : List (Place × Place) :=
  [(["bin"], ["usr", "bin"]), (["sbin"], ["usr", "sbin"]), (["lib"], ["usr", "lib"]),
    (["lib64"], ["usr", "lib64"]), (["dev", "fd"], ["proc", "0", "fd"]),
    (["proc", "self"], ["proc", "0"]), (["var", "run"], ["run"])]

/-- The reports in the folder of the running process. -/
def reports : List (String × Report) :=
  [("cmdline", .arguments), ("comm", .name), ("environ", .environment), ("limits", .limits),
    ("stat", .statistics), ("status", .status)]

/-- The devices that every machine has. -/
def devices : List (Place × Node) :=
  [(["dev", "null"], .sink), (["dev", "full"], .full), (["dev", "tty"], .terminal),
    (["dev", "stdin"], .descriptor 0), (["dev", "stdout"], .descriptor 1),
    (["dev", "stderr"], .descriptor 2)] ++
    (["random", "urandom", "zero"].map fun name => (["dev", name], Node.endless)) ++
    (List.range 10).map fun n => (["proc", "0", "fd", Text.decimalString n], .descriptor n)

/-- The users without a shell: names, numbers of users and groups, descriptions and homes. -/
def serviceUsers : List (String × Nat × Nat × String × String) :=
  [("daemon", 1, 1, "daemon", "/usr/sbin"), ("bin", 2, 2, "bin", "/bin"),
    ("sys", 3, 3, "sys", "/dev"), ("sync", 4, 65534, "sync", "/bin"),
    ("games", 5, 60, "games", "/usr/games"), ("man", 6, 12, "man", "/var/cache/man"),
    ("lp", 7, 7, "lp", "/var/spool/lpd"), ("mail", 8, 8, "mail", "/var/mail"),
    ("news", 9, 9, "news", "/var/spool/news"), ("uucp", 10, 10, "uucp", "/var/spool/uucp"),
    ("proxy", 13, 13, "proxy", "/bin"), ("www-data", 33, 33, "www-data", "/var/www"),
    ("backup", 34, 34, "backup", "/var/backups"),
    ("list", 38, 38, "Mailing List Manager", "/var/list"), ("irc", 39, 39, "ircd", "/run/ircd"),
    ("_apt", 42, 65534, "", "/nonexistent"),
    ("nobody", 65534, 65534, "nobody", "/nonexistent")]

/-- The list of users. -/
def userList : String :=
  "root:x:0:0:root:/root:/bin/bash\n" ++ String.join (serviceUsers.map
    fun (name, user, group, description, home) =>
      name ++ ":x:" ++ Text.decimalString user ++ ":" ++ Text.decimalString group ++ ":" ++
        description ++ ":" ++ home ++ ":" ++
        (if name = "sync" then "/bin/sync" else "/usr/sbin/nologin") ++ "\n")

/-- The files that every machine has. -/
def nodes : List (Place × Node) :=
  folders.map (·, Node.folder) ++ links.map (fun l => (l.1, .link l.2)) ++ devices ++
    reports.map (fun r => (["proc", "0", r.1], .report r.2)) ++
    [(["etc", "passwd"], .file (Utf8.ofString userList) 0o644)] ++
    programNames.map fun name => (programFolder ++ [name], Node.file [] 0o755)

end SessionHandoff.Machine
