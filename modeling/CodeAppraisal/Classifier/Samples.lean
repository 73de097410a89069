import CodeAppraisal.Classifier.Basic

/-!
The pieces of code that the built-in classifier is trained on.
-/
namespace CodeAppraisal.Classifier

structure TrainingSample where
  code : String
  label : Label
  deriving DecidableEq, Repr

private def good (code : String) : TrainingSample := ⟨code, .good⟩

private def bad (code : String) : TrainingSample := ⟨code, .bad⟩

def trainingSamples : List TrainingSample := [
  good "def calculate_sum(numbers): return sum(numbers)",
  good "class DataProcessor:\n    def __init__(self):\n        self.data = []",
  good "def validate_email(email: str) -> bool:\n    return '@' in email",
  good "import logging\nlogger = logging.getLogger(__name__)",
  good "def process_data(data: list) -> dict:\n    result = \x7b\x7d\n    return result",
  bad "def f(x): return x+x+x+x+x+x",
  bad "a=1;b=2;c=3;d=4;e=5;f=6",
  bad "def foo():\n    if True:\n        if True:\n            if True:\n                pass",
  bad "x = 12345678; y = 98765432",
  bad "def function(a,b,c,d,e,f,g,h,i): pass",
  good "def well_named_function():\n    '''Docstring'''\n    pass",
  good "class MyClass:\n    '''Class docstring'''\n    pass",
  good "# This is a helpful comment\nresult = process_input(data)",
  good "try:\n    risky_operation()\nexcept Exception as e:\n    handle_error(e)",
  good "with open('file.txt') as f:\n    content = f.read()",
  bad "def a(): pass\ndef b(): pass\ndef c(): pass",
  bad "x=1;y=2;z=3;a=4;b=5;c=6;d=7",
  bad "global var1, var2, var3, var4",
  bad "eval(user_input)",
  bad "except: pass"]

end CodeAppraisal.Classifier
