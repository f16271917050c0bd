/-! What the program calls itself. -/
namespace ScriptSession.Product

def name : String := "Quill"

/-- How it is called on the command line. -/
def command : String := "quill"

def version : String := "0.3.2"

end ScriptSession.Product
