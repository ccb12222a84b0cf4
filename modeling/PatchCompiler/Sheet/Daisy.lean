import PatchCompiler.Template.Basic

/-!
# Sheets for boards

The main file and the makefile of a program for a board.
-/

namespace PatchCompiler.Sheet

def writesIn (list : String) : Piece :=
  .for_ ["param"] (.name list)
    [.choose (.path "param.bool")
       [.text [" \n  if (`param.process`)
    hv.sendBangToReceiver((uint32_t) HV_`patch_name|upper`_PARAM_IN_`param.hash_enum|upper`); \n"]]
       [.text ["  hv.sendFloatToReceiver((uint32_t) HV_`patch_name|upper`_PARAM_IN_`param.hash_enum|upper`, `param.process`); ",
          ""]]]

def writesOut (list : String) : Piece :=
  .for_ ["param"] (.name list)
    [.choose (.path "param.bool")
       [.text [" \n  if (`param.value`)\n    `param.process`\n"]]
       [.text ["  `param.process`\n"]]]

def daisyMain : Template :=
  [.text ["`copyright`\n\n#include \"Heavy_`patch_name`.h\"\n#include \"Heavy_`patch_name`.hpp\" ",
     "#include \"HeavyDaisy_`patch_name`.hpp\"                                                                 ",
     "\n#define SAMPLE_RATE 48000.f\n\nusing namespace daisy;\n\njson2daisy::Daisy"],
   .value (.change .capitalized (.name "class_name")),
   .text [" hardware;\n\nHeavy_`patch_name` hv(SAMPLE_RATE);\n",
     "void audiocallback(daisy::AudioHandle::InputBuffer in, daisy::AudioHandle::OutputBuffer out, size_t size);",
     "static void sendHook(HeavyContextInterface *c, const char *receiverName, uint32_t receiverHash, const HvMessage * m);",
     "void CallbackWriteIn(Heavy_`patch_name`& hv);\nvoid LoopWriteIn(Heavy_`patch_name`& hv);",
     "void CallbackWriteOut();\nvoid LoopWriteOut();\nvoid PostProcess();\nvoid Display();\n\n"],
   .when (.any "output_parameters")
     [.text ["constexpr int DaisyNumOutputParameters = "],
      .value (.length (.name "output_parameters")),
      .text [";\n/** This array holds the output values received from PD hooks. These values are
 *  then written at the appropriate time in the following callback or loop.
 */\nfloat output_data[DaisyNumOutputParameters];\n\nstruct DaisyHvParamOut\n\x7b",
        "\tuint32_t hash;\n\tuint32_t index;
  void (*hook_write_out)(float);\n\n\tvoid Process(float sig)\n\t\x7b",
        "\t\toutput_data[index] = sig;
    if (hook_write_out)
      (*hook_write_out)(sig);\n\t\x7d\n\x7d;\n\n"],
      .for_ ["param"] (.name "hook_write_out")
        [.text ["void `param.name`_hook(float sig) \x7b\n  `param.process`\n\x7d;\n"]],
      .text ["\nDaisyHvParamOut DaisyOutputParameters[DaisyNumOutputParameters] = \x7b\n"],
      .for_ ["param"] (.name "output_parameters")
        [.choose (.path "param.hook")
           [.text ["    \x7b (uint32_t) HV_`patch_name|upper`_PARAM_OUT_`param.hash_enum|upper`, `param.index`, &`param.name`_hook \x7d, // `param.name`",
              ""]]
           [.text ["\t\t\x7b (uint32_t) HV_`patch_name|upper`_PARAM_OUT_`param.hash_enum|upper`, `param.index`, nullptr \x7d, // `param.name`",
              ""]]],
      .text ["\x7d;\n"]],
   .text ["\nint main(void)\n\x7b
  hardware.Init(true);
  hardware.StartAudio(audiocallback);\n
  hv.setSendHook(sendHook);\n
  for(;;)
  \x7b
    hardware.LoopProcess();
    Display();\n"],
   .when (.any "loop_write_in") [.text ["    LoopWriteIn(hv);\n"]],
   .when (.any "output_parameters") [.text ["    LoopWriteOut();\n"]],
   .text ["  \x7d\n\x7d\n",
     "/** The audio processing function. At the standard 48KHz sample rate and a block
 *  size of 48, this will fire every millisecond.
 */",
     "void audiocallback(daisy::AudioHandle::InputBuffer in, daisy::AudioHandle::OutputBuffer out, size_t size)",
     "\x7b\n"],
   .when (.equals (.name "num_output_channels") 0)
     [.text ["  // A zero fill to keep I/O quiet for a patch lacking ADC~/DAC~
  for (size_t chn = 0; chn < `max_channels`; chn++)
  \x7b
    for (size_t i = 0; i < size; i++)
      out[chn][i] = 0;
  \x7d\n"]],
   .when (.any "parameters")
     [.text ["  hardware.ProcessAllControls();\n  CallbackWriteIn(hv);\n"]],
   .text ["  hv.process((float**)in, (float**)out, size);\n"],
   .when (.any "output_parameters") [.text ["  CallbackWriteOut();\n"]],
   .text ["  hardware.PostProcess();\n\x7d\n",
     "/** Receives messages from PD and writes them to the appropriate ",
     " *  index in the ``output_data`` array, to be written later.
 */",
     "static void sendHook(HeavyContextInterface *c, const char *receiverName, uint32_t receiverHash, const HvMessage * m) ",
     "\x7b\n"],
   .when (.any "output_parameters")
     [.text ["  for (int i = 0; i < DaisyNumOutputParameters; i++)
  \x7b
    if (DaisyOutputParameters[i].hash == receiverHash)
    \x7b
      DaisyOutputParameters[i].Process(msg_getFloat(m, 0));
    \x7d
  \x7d\n"]],
   .text ["\x7d\n",
     "/** Sends signals from the Daisy hardware to the PD patch via the receive objects during the main loop
 * \n */\nvoid LoopWriteIn(Heavy_`patch_name`& hv)\n\x7b\n"],
   writesIn "loop_write_in",
   .text ["\x7d\n",
     "/** Sends signals from the Daisy hardware to the PD patch via the receive objects during the audio callback
 * \n */\nvoid CallbackWriteIn(Heavy_`patch_name`& hv)\n\x7b\n"],
   writesIn "callback_write_in",
   .text ["\x7d\n",
     "/** Writes the values sent to PD's receive objects to the Daisy hardware during the main loop
 * \n */\nvoid LoopWriteOut() \x7b\n"],
   writesOut "loop_write_out",
   .text ["\x7d\n",
     "/** Writes the values sent to PD's receive objects to the Daisy hardware during the audio callback
 * \n */\nvoid CallbackWriteOut() \x7b\n"],
   writesOut "callback_write_out",
   .text ["\x7d\n\n/** Handles the display code if the hardware defines a display
 * \n */\nvoid Display() \x7b
  `displayprocess`\n\x7d"]]

def daisyMakefile : Template :=
  [.text ["# Project Name\nTARGET = HeavyDaisy_`name`\n\n# Library Locations",
     "LIBDAISY_DIR = `libdaisy_path`\n\n"],
   .when (.operation .unequal (.name "linker_script") (.text ""))
     [.text ["LDSCRIPT = `linker_script`\n"]],
   .text ["\n"],
   .when (.name "bootloader") [.text ["C_DEFS += -DBOOT_APP\n"]],
   .text ["\n# Project Source\nC_SOURCES = $(wildcard *.c)\nCPP_SOURCES = $(wildcard *.cpp)\n",
     "# Core location, and generic makefile.\nSYSTEM_FILES_DIR = $(LIBDAISY_DIR)/core",
     "include $(SYSTEM_FILES_DIR)/Makefile"]]

end PatchCompiler.Sheet
