import PatchCompiler.Template.Basic

/-!
# Sheets for plugins

The class, the description and the makefiles of a plugin.
-/

namespace PatchCompiler.Sheet

def rule : String :=
  "// -------------------------------------------------------------------"

def pluginHeader : Template :=
  [.text ["`copyright`\n\n#ifndef _HEAVY_LV2_`name|upper`_\n#define _HEAVY_LV2_`name|upper`_\n",
     "#include \"DistrhoPlugin.hpp\"\n#include \"DistrhoPluginInfo.h\"",
     "#include \"Heavy_`name`.hpp\"\n\nSTART_NAMESPACE_DISTRHO\n",
     "static void hvSendHookFunc(HeavyContextInterface *c, const char *sendName, uint32_t sendHash, const HvMessage *m);",
     "static void hvPrintHookFunc(HeavyContextInterface *c, const char *printLabel, const char *msgString, const HvMessage *m);",
     "\nclass `class_name` : public Plugin\n\x7b\npublic:
  enum Parameters
  \x7b\n    "],
   .entries "receivers" [.text ["\n      param`v.display`,\n    "]],
   .text ["
  \x7d;\n
  `class_name`();
  ~`class_name`() override;\n
  void handleMidiInput(uint32_t frames, const MidiEvent* midiEvents, uint32_t midiEventCount);
  void handleMidiSend(uint32_t sendHash, const HvMessage *m);\n\nprotected:",
     "  " ++ rule, "  // Information\n
  const char* getLabel() const noexcept override
  \x7b
    return \"`name`\";
  \x7d\n\n"],
   .when (.isDefined (.path "meta.description"))
     [.text ["
  const char* getDescription() const override
  \x7b
    return \"`meta.description`\";
  \x7d\n"]],
   .text ["\n\n  const char* getMaker() const noexcept override\n  \x7b\n"],
   .choose (.isDefined (.path "meta.maker"))
     [.text ["\n    return \"`meta.maker`\";\n"]]
     [.text ["\n    return \"Wasted Audio\";\n"]],
   .text ["\n  \x7d\n\n"],
   .when (.isDefined (.path "meta.homepage"))
     [.text ["
  const char* getHomePage() const override
  \x7b
    return \"`meta.homepage`\";
  \x7d\n"]],
   .text ["\n\n  const char* getLicense() const noexcept override\n  \x7b\n"],
   .choose (.isDefined (.path "meta.license"))
     [.text ["\n    return \"`meta.license`\";\n"]]
     [.text ["\n    return \"GPL v3+\";\n"]],
   .text ["\n  \x7d\n\n  uint32_t getVersion() const noexcept override\n  \x7b\n"],
   .choose (.isDefined (.path "meta.version"))
     [.text ["\n    return d_version(`meta.version`);\n"]]
     [.text ["\n    return d_version(0, 0, 1);\n"]],
   .text ["
  \x7d\n
  int64_t getUniqueId() const noexcept override
  \x7b
    return int64_t( "],
   .value (.change .identifier (.name "class_name")),
   .text [" );
  \x7d\n",
     "  " ++ rule, "  // Init\n
  void initParameter(uint32_t index, Parameter& parameter) override;\n",
     "  " ++ rule, "  // Internal data\n
  float getParameterValue(uint32_t index) const override;
  void  setParameterValue(uint32_t index, float value) override;\n",
     "  " ++ rule, "  // Process\n
  // void activate() override;
  // void deactivate() override;\n\n#if DISTRHO_PLUGIN_WANT_MIDI_INPUT
  void run(const float** inputs, float** outputs, uint32_t frames, const MidiEvent* midiEvents, uint32_t midiEventCount) override;",
     "#else
  void run(const float** inputs, float** outputs, uint32_t frames) override;\n#endif\n",
     "  " ++ rule, "  // Callbacks\n
  void sampleRateChanged(double newSampleRate) override;\n", "  " ++ rule, "\nprivate:\n  "],
   .when (.any "receivers")
     [.text ["\n  // parameters\n  float _parameters["],
      .value (.length (.name "receivers")),
      .text ["]; // in range of [0,1]\n  "]],
   .text ["\n
  // transport values
  bool wasPlaying;
  float samplesProcessed;
  double nextClockTick;
  double sampleAtCycleStart;\n
  // heavy context
  HeavyContextInterface *_context;\n
  // `class_name`<float> f`name`;\n
  DISTRHO_DECLARE_NON_COPYABLE_WITH_LEAK_DETECTOR(`class_name`)\n\x7d;\n",
     rule ++ "----\n",
     "END_NAMESPACE_DISTRHO\n\n#endif // _HEAVY_LV2_`name|upper`_\n"]]

def pluginInfo : Template :=
  [.text ["`copyright`\n\n#pragma once\n\n#define DISTRHO_PLUGIN_NAME                 \"`name`\"\n"],
   .choose (.isDefined (.path "meta.plugin_uri"))
     [.text ["\n#define DISTRHO_PLUGIN_URI                  \"`meta.plugin_uri`\"\n"]]
     [.text ["",
        "#define DISTRHO_PLUGIN_URI                  \"http://wasted.audio/lv2/plugin/`name`\"\n"]],
   .text ["\n#define DISTRHO_PLUGIN_NUM_INPUTS           `num_input_channels`",
     "#define DISTRHO_PLUGIN_NUM_OUTPUTS          `num_output_channels`",
     "#define DISTRHO_PLUGIN_IS_SYNTH             "],
   .value (.choose (.and (.positive (.name "num_output_channels")) (.path "meta.midi_input")) (.number 1) (.number 0)),
   .text ["\n#define DISTRHO_PLUGIN_HAS_UI               0",
     "#define DISTRHO_PLUGIN_IS_RT_SAFE           1\n#define DISTRHO_PLUGIN_WANT_PROGRAMS        0",
     "#define DISTRHO_PLUGIN_WANT_STATE           0\n#define DISTRHO_PLUGIN_WANT_TIMEPOS         1",
     "#define DISTRHO_PLUGIN_WANT_FULL_STATE      0\n#define DISTRHO_PLUGIN_WANT_MIDI_INPUT      "],
   .value (.choose (.isDefined (.path "meta.midi_input")) (.path "meta.midi_input") (.number 1)),
   .text ["\n#define DISTRHO_PLUGIN_WANT_MIDI_OUTPUT     "],
   .value (.choose (.isDefined (.path "meta.midi_output")) (.path "meta.midi_output") (.number 1)),
   .text ["\n\n// for level monitoring\n#define DISTRHO_PLUGIN_WANT_DIRECT_ACCESS   0"]]

def pluginMakefile : Template :=
  [.text ["NAME = `name`\n\nFILES_DSP = $(wildcard *.cpp)\nFILES_DSP += $(wildcard *.c)\n",
     "DPF_TARGET_DIR = ../../bin\nDPF_BUILD_DIR = ../../build\nDPF_PATH = ../../`dpf_path`dpf\n",
     "include ../../`dpf_path`dpf/Makefile.plugins.mk\n\nLINK_FLAGS += -lpthread",
     "CFLAGS += -Wno-unused-parameter\nCXXFLAGS += -Wno-unused-parameter\n\n"],
   .choose (.isDefined (.path "meta.plugin_formats"))
     [.text ["\n\t"],
      .for_ ["format"] (.path "meta.plugin_formats") [.text ["\nTARGETS += `format`\n\t"]],
      .text ["\n"]]
     [.text ["\nTARGETS += jack\nTARGETS += lv2_dsp\nTARGETS += vst\n"]],
   .text ["\n\nall: $(TARGETS)"]]

def ruled : String :=
  "# --------------------------------------------------------------"

def projectMakefile : Template :=
  [.text ["#!/usr/bin/make -f\n# Makefile for DISTRHO Plugins #\n# ---------------------------- #",
     "# Created by falkTX\n#\n# Modified by Wasted Audio\n#\n",
     "include `dpf_path`dpf/Makefile.base.mk\n\nall: plugin gen\n",
     ruled, "\ndgl:",
     "# ifeq ($(HAVE_CAIRO_OR_OPENGL),true)",
     "# \t$(MAKE) -C `dpf_path`dpf/dgl FILE_BROWSER_DISABLED=true\n# endif\n\nplugin: dgl",
     "\t$(MAKE) all -C plugin/source\n\nifneq ($(CROSS_COMPILING),true)",
     "gen: plugin lv2_ttl_generator\n\t@$(CURDIR)/`dpf_path`dpf/utils/generate-ttl.sh\n",
     "lv2_ttl_generator:\n\t$(MAKE) -C `dpf_path`dpf/utils/lv2-ttl-generator\nelse\ngen:\nendif\n",
     ruled, "\nclean:",
     "\t$(MAKE) clean -C `dpf_path`dpf/utils/lv2-ttl-generator\n\t$(MAKE) clean -C plugin/source",
     "\trm -rf bin build\n", ruled, "\n.PHONY: plugin"]]

end PatchCompiler.Sheet
