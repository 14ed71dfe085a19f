import DeskShell.Store.Edit

/-!
# The desktop as delivered

* `Desktop.records`: the entries of a fresh desktop.
* `Desktop.store`: the store they make.
-/
namespace DeskShell.Desktop

def rootId : String := "desktop"

def binId : String := "recycle-bin"

def aboutText : String := "\n".intercalate [
  "ABOUT ME",
  "========",
  "",
  "Hello, World!",
  "",
  "I'm Daniel Chen, a passionate developer who loves building",
  "creative and interactive web experiences.",
  "",
  "WHAT I DO",
  "- Full-Stack Web Development",
  "- Creative UI/UX Design",
  "- Interactive Experiences",
  "- Problem Solving",
  "",
  "Thanks for visiting! Feel free to explore."]

def contactText : String := "\n".intercalate [
  "CONTACT INFORMATION",
  "===================",
  "",
  "Email: hello@danielchen.dev",
  "GitHub: github.com/danielchen",
  "LinkedIn: linkedin.com/in/danielchen",
  "Twitter: @danielchen",
  "",
  "Feel free to reach out!"]

def folder (name : String) (children : List String) (appType : Option String) : Record :=
  { name := some name, kind := some (some "folder"), children := some children, appType }

def file (name content : String) (appType : Option String) : Record :=
  { name := some name, kind := some (some "file"), content := some content, appType }

def system (name appType : String) (children : Option (List String)) : Record :=
  { name := some name, kind := some (some "system"), children, appType := some appType }

def records : List (String × Record) := [
  ("desktop", folder "Desktop" ["about", "projects", "contact", "skills", "recycle-bin"] none),
  ("about", file "About Me.txt" aboutText (some "about")),
  ("projects", folder "My Projects" ["project-1", "project-2", "project-3"] (some "explorer")),
  ("contact", file "Contact.txt" contactText (some "contact")),
  ("skills", system "My Computer" "mycomputer" none),
  ("recycle-bin", system "Recycle Bin" "recyclebin" (some [])),
  ("internet-explorer", system "Internet Explorer" "browser" none),
  ("project-1",
    file "Project Alpha" "A full-stack web application built with React and Node.js" none),
  ("project-2", file "Project Beta" "An interactive data visualization dashboard" none),
  ("project-3", file "Retro OS Website" "This website! A Windows 95 themed portfolio." none)]

/-- A fresh desktop, its entries made at `now`. -/
def store (now : Int) : Except Fault Store := Store.ofRecords records rootId binId now

end DeskShell.Desktop
