/-
`Help.lean` -- the texts about the command line itself.
-/
import KernelShader.Log

set_option autoImplicit false

namespace KernelShader.CommandLine

/-- How the program is called. -/
def usageText : String :=
  "usage: pywgsl [-h] [--emit \x7btokens,wgsl,run\x7d] [--demo] [--main MAIN]\n" ++
  "              [--workgroup-size WORKGROUP_SIZE] [--return-type RETURN_TYPE]\n" ++
  "              [--param-type PARAM_TYPE] [--input NAME=v1,v2,...]\n" ++
  "              [--dtype \x7bfloat32,int32,uint32\x7d] [--dispatch DISPATCH]\n" ++
  "              [--legacy] [-v]\n" ++
  "              [file]\n"

/-- How the program is called and what everything means. -/
def helpText : String :=
  usageText ++
  "\n" ++
  "Kernel function to WGSL translator\n" ++
  "\n" ++
  "positional arguments:\n" ++
  "  file                  kernel source file (one or more functions)\n" ++
  "\n" ++
  "options:\n" ++
  "  -h, --help            show this help message and exit\n" ++
  "  --emit \x7btokens,wgsl,run\x7d\n" ++
  "                        Output mode (default: wgsl)\n" ++
  "  --demo                Use the built-in demo program\n" ++
  "  --main MAIN           entry function name (default: the last function)\n" ++
  "  --workgroup-size WORKGROUP_SIZE\n" ++
  "                        X[,Y[,Z]] (default: 1)\n" ++
  "  --return-type RETURN_TYPE\n" ++
  "                        return type of helper functions\n" ++
  "  --param-type PARAM_TYPE\n" ++
  "                        parameter type of helper functions\n" ++
  "  --input NAME=v1,v2,...\n" ++
  "                        storage buffer input; repeatable\n" ++
  "  --dtype \x7bfloat32,int32,uint32\x7d\n" ++
  "                        host element type of --input values\n" ++
  "  --dispatch DISPATCH   workgroup count (default: input length)\n" ++
  "  --legacy              reproduce the historical line-rewrite quirks\n" ++
  "  -v, --verbose         debug logging\n"

/-- The complaint about a command line that cannot be understood. -/
def usageError (message : String) : String :=
  usageText ++ libraryName ++ ": error: " ++ message ++ "\n"

end KernelShader.CommandLine
